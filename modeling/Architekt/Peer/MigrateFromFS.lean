import Architekt.MigrateFrom.Model

/-!
# `migrateFromFS`: exposing the devices of a package on the local machine

When `Peer.MigrateFrom` is given no reader and no writer, every device comes from the
local file system (`pkg/peer/migrate_from.go`):

```text
for _, input := range devices {
	if input.Shared { exposeSiloDeviceAsFile(vmpath, input.Name, input.Base) }
	else            { siloDeviceSchemas = append(siloDeviceSchemas, createSiloDevSchema(&input)) }
}
dg := devicegroup.NewFromSchema(siloDeviceSchemas)
for _, input := range siloDeviceSchemas {
	dev := dg.GetExposedDeviceByName(input.Name)
	exposeSiloDeviceAsFile(vmpath, input.Name, filepath.Join("/dev", dev.Device()))
}
```

and `exposeSiloDeviceAsFile` creates the block device node `vmpath/name` with the `Rdev` of
the path it exposes.  Every call returns at its first error.  The machine is an `Env`:
what `os.Stat` and `os.MkdirAll` see and what Silo's device group does; the device nodes
the call creates are threaded through it.

`migrateFromFS_nodes` says what a successful call has done: one node per device, those of
the shared devices first, each with the device number of what it exposes, at paths that
did not exist before and are pairwise distinct.  So two devices whose nodes would share a
path make the call fail (`migrateFromFS_error_of_not_nodup`).  The paths are those
`filepath.Join` builds, cleaned (`clean`), so names such as `disk` and `./disk` share one.
-/

namespace Architekt.Peer

/-- A device of `Peer.MigrateFrom`. -/
structure MigrateFromDevice where
  name : String
  base : String
  overlay : String
  state : String
  blockSize : Nat
  shared : Bool
  deriving Repr, DecidableEq

/-- The read-only source of a sparse overlay, `DeviceSchema.ROSource`. -/
structure SourceSchema where
  name : String
  system : String
  location : String
  size : String
  deriving Repr, DecidableEq

/-- Silo's `config.DeviceSchema`, as far as `createSiloDevSchema` sets it. -/
structure DeviceSchema where
  name : String
  blockSize : String
  expose : Bool
  size : String
  system : String
  location : String
  roSource : Option SourceSchema
  deriving Repr, DecidableEq

/-- What `os.Stat` reports of a path. -/
structure FileInfo where
  size : Nat
  rdev : Nat
  deriving Repr, DecidableEq

/-- A device node created by `unix.Mknod`. -/
structure Node where
  path : String
  rdev : Nat
  deriving Repr, DecidableEq

/-- The sentinel errors of the calls. -/
inductive Error
  | couldNotGetDeviceStat
  | couldNotCreateDeviceNode
  | couldNotGetBaseDeviceStat
  | couldNotCreateOverlayDirectory
  | couldNotCreateStateDirectory
  /-- `devicegroup.NewFromSchema` failed. -/
  | couldNotCreateDeviceGroup
  /-- `GetExposedDeviceByName` returned `nil`, and `dev.Device()` panics. -/
  | noExposedDevice
  deriving Repr, DecidableEq

/-- The machine `migrateFromFS` runs on. -/
structure Env where
  /-- `os.Stat` of a path that existed before the call. -/
  stat : String → Option FileInfo
  /-- Whether `os.MkdirAll(filepath.Dir(path))` succeeds. -/
  mkdirAllDir : String → Bool
  /-- `devicegroup.NewFromSchema`: the exposed device of each name, or an error. -/
  newFromSchema : List DeviceSchema → Option (String → Option String)

/-! ## Paths -/

/-- `strings.Split(path, "/")`, on the characters of a path. -/
def splitSlash : List Char → List (List Char)
  | [] => [[]]
  | c :: cs =>
      if c = '/' then [] :: splitSlash cs
      else match splitSlash cs with
        | e :: es => (c :: e) :: es
        | [] => [[c]]

/-- `filepath.Clean` reads one element of a path onto the elements it keeps, the last one
first: an empty element and `.` are dropped; `..` removes the element before it, unless
that is a `..` kept at the start of a relative path; a `..` with nothing before it is
dropped at the root and kept in a relative path. -/
def cleanElem (rooted : Bool) (kept : List (List Char)) (e : List Char) : List (List Char) :=
  if e = [] ∨ e = ['.'] then kept
  else if e = ['.', '.'] then
    match kept with
    | top :: rest => if top = ['.', '.'] then e :: kept else rest
    | [] => if rooted then [] else [e]
  else e :: kept

/-- `filepath.Clean`: the shortest path that names the same file by lexical processing
alone, `.` if nothing is left of a relative path. -/
def clean (path : String) : String :=
  let rooted := path.data.head? == some '/'
  let kept := ((splitSlash path.data).foldl (cleanElem rooted) []).reverse
  if rooted then ⟨'/' :: List.intercalate ['/'] kept⟩
  else if kept = [] then "." else ⟨List.intercalate ['/'] kept⟩

/-- `filepath.Join(dir, name)`: the two joined by a `/` and cleaned, an empty `dir` left
out. -/
def joinPath (dir name : String) : String :=
  if dir ≠ "" then clean (dir ++ "/" ++ name)
  else if name ≠ "" then clean name else ""

example : joinPath "/vm/" "./disk" = "/vm/disk" ∧ joinPath "/vm" "a/../../disk" = "/disk" ∧
    clean "../a//b/.." = "../a" := by decide

/-! ## The calls -/

/-- A path exists if it existed before the call or a node was created there. -/
def Env.pathExists (env : Env) (nodes : List Node) (path : String) : Bool :=
  (env.stat path).isSome || nodes.any (·.path == path)

/-- `exposeSiloDeviceAsFile`: create the node `vmpath/name` with the `Rdev` of `devicePath`. -/
def exposeSiloDeviceAsFile (env : Env) (nodes : List Node) (vmpath name devicePath : String) :
    Except Error (List Node) :=
  match env.stat devicePath with
  | none => .error .couldNotGetDeviceStat
  | some info =>
      if env.pathExists nodes (joinPath vmpath name) then .error .couldNotCreateDeviceNode
      else .ok (nodes ++ [⟨joinPath vmpath name, info.rdev⟩])

/-- `createSiloDevSchema`: a file device on the base, or a sparse overlay on a read-only
base when both the overlay and the state are given. -/
def createSiloDevSchema (env : Env) (i : MigrateFromDevice) : Except Error DeviceSchema :=
  match env.stat i.base with
  | none => .error .couldNotGetBaseDeviceStat
  | some stat =>
      let ds : DeviceSchema := ⟨i.name, toString i.blockSize, true, toString stat.size, "file",
        i.base, none⟩
      if MigrateFrom.isBlank i.overlay || MigrateFrom.isBlank i.state then .ok ds
      else if !env.mkdirAllDir i.overlay then .error .couldNotCreateOverlayDirectory
      else if !env.mkdirAllDir i.state then .error .couldNotCreateStateDirectory
      else .ok { ds with
        system := "sparsefile"
        location := i.overlay
        roSource := some ⟨i.state, "file", i.base, toString stat.size⟩ }

/-- The first loop of `migrateFromFS`: expose the shared devices, collect the schemas of
the others. -/
def collectSchemas (env : Env) (vmpath : String) :
    List MigrateFromDevice → List Node → List DeviceSchema →
      Except Error (List Node × List DeviceSchema)
  | [], nodes, schemas => .ok (nodes, schemas)
  | input :: rest, nodes, schemas =>
      if input.shared then
        match exposeSiloDeviceAsFile env nodes vmpath input.name input.base with
        | .error e => .error e
        | .ok nodes => collectSchemas env vmpath rest nodes schemas
      else
        match createSiloDevSchema env input with
        | .error e => .error e
        | .ok ds => collectSchemas env vmpath rest nodes (schemas ++ [ds])

/-- The path of the exposed device `dev`, `filepath.Join("/dev", dev.Device())`. -/
def devPath (dev : String) : String := joinPath "/dev" dev

/-- The second loop of `migrateFromFS`: expose the device the group made of each schema. -/
def exposeSchemas (env : Env) (vmpath : String) (dg : String → Option String) :
    List DeviceSchema → List Node → Except Error (List Node)
  | [], nodes => .ok nodes
  | ds :: rest, nodes =>
      match dg ds.name with
      | none => .error .noExposedDevice
      | some dev =>
          match exposeSiloDeviceAsFile env nodes vmpath ds.name (devPath dev) with
          | .error e => .error e
          | .ok nodes => exposeSchemas env vmpath dg rest nodes

/-- `migrateFromFS`: the device group and the device nodes created. -/
def migrateFromFS (env : Env) (vmpath : String) (devices : List MigrateFromDevice) :
    Except Error ((String → Option String) × List Node) :=
  match collectSchemas env vmpath devices [] [] with
  | .error e => .error e
  | .ok (nodes, schemas) =>
      match env.newFromSchema schemas with
      | none => .error .couldNotCreateDeviceGroup
      | some dg =>
          match exposeSchemas env vmpath dg schemas nodes with
          | .error e => .error e
          | .ok nodes => .ok (dg, nodes)

/-! ## What a successful call has done -/

section Spec

variable {env : Env} {vmpath : String}

/-- The `Rdev` `os.Stat` reports of a path, `0` if there is none. -/
def Env.rdev (env : Env) (path : String) : Nat := ((env.stat path).map FileInfo.rdev).getD 0

/-- The nodes created so far have pairwise distinct paths, where nothing was before. -/
def NodesOk (env : Env) (nodes : List Node) : Prop :=
  (nodes.map Node.path).Nodup ∧ ∀ n ∈ nodes, env.stat n.path = none

theorem NodesOk.snoc {nodes : List Node} {p : String} (hn : NodesOk env nodes)
    (hp : env.pathExists nodes p = false) (r : Nat) : NodesOk env (nodes ++ [⟨p, r⟩]) := by
  simp only [Env.pathExists, Bool.or_eq_false_iff, List.any_eq_false, beq_iff_eq] at hp
  have hstat : env.stat p = none := Option.not_isSome_iff_eq_none.1 (by simp [hp.1])
  refine ⟨?_, ?_⟩
  · rw [List.map_append, List.nodup_append]
    exact ⟨hn.1, List.nodup_singleton p, by simpa [List.disjoint_singleton] using hp.2⟩
  · intro n hn'
    rcases List.mem_append.1 hn' with h | h
    · exact hn.2 n h
    · simp only [List.mem_singleton] at h; subst h; exact hstat

/-- A node `exposeSiloDeviceAsFile` creates is at a fresh path and carries the device
number of what it exposes. -/
theorem exposeSiloDeviceAsFile_ok {nodes nodes' : List Node} {name devicePath : String}
    (h : exposeSiloDeviceAsFile env nodes vmpath name devicePath = .ok nodes') :
    nodes' = nodes ++ [⟨joinPath vmpath name, env.rdev devicePath⟩] ∧
      (NodesOk env nodes → NodesOk env nodes') := by
  unfold exposeSiloDeviceAsFile at h
  split at h
  · cases h
  · rename_i info hinfo
    split at h
    · cases h
    next hp =>
      cases h
      have hr : env.rdev devicePath = info.rdev := by simp [Env.rdev, hinfo]
      exact ⟨by rw [hr], fun hn => hn.snoc (Bool.eq_false_iff.2 hp) _⟩

theorem createSiloDevSchema_name {i : MigrateFromDevice} {ds : DeviceSchema}
    (h : createSiloDevSchema env i = .ok ds) : ds.name = i.name := by
  unfold createSiloDevSchema at h
  split at h
  · cases h
  · split at h
    · cases h; rfl
    · split at h
      · cases h
      · split at h <;> cases h; rfl

theorem collectSchemas_ok :
    ∀ {devices : List MigrateFromDevice} {nodes nodes' : List Node}
      {schemas schemas' : List DeviceSchema},
    collectSchemas env vmpath devices nodes schemas = .ok (nodes', schemas') →
      nodes' = nodes ++ (devices.filter (·.shared)).map
        (fun d => ⟨joinPath vmpath d.name, env.rdev d.base⟩) ∧
      schemas'.map DeviceSchema.name =
        schemas.map DeviceSchema.name ++ (devices.filter (!·.shared)).map (·.name) ∧
      (NodesOk env nodes → NodesOk env nodes')
  | [], _, _, _, _, h => by cases h; simp
  | d :: rest, nodes, nodes', schemas, schemas', h => by
      unfold collectSchemas at h
      split at h
      · rename_i hshared
        split at h
        · cases h
        · rename_i nodes₁ h₁
          obtain ⟨rfl, hok₁⟩ := exposeSiloDeviceAsFile_ok h₁
          obtain ⟨hn, hs, hok⟩ := collectSchemas_ok h
          exact ⟨by simp [hn, hshared], by simp [hs, hshared], fun h => hok (hok₁ h)⟩
      · rename_i hshared
        split at h
        · cases h
        · rename_i ds h₁
          obtain ⟨hn, hs, hok⟩ := collectSchemas_ok h
          exact ⟨by simp [hn, hshared], by simp [hs, hshared, createSiloDevSchema_name h₁], hok⟩

theorem exposeSchemas_ok {dg : String → Option String} :
    ∀ {schemas : List DeviceSchema} {nodes nodes' : List Node},
    exposeSchemas env vmpath dg schemas nodes = .ok nodes' →
      nodes' = nodes ++ schemas.map
        (fun ds => ⟨joinPath vmpath ds.name, env.rdev (devPath ((dg ds.name).getD ""))⟩) ∧
      (NodesOk env nodes → NodesOk env nodes')
  | [], _, _, h => by cases h; simp
  | ds :: rest, nodes, nodes', h => by
      unfold exposeSchemas at h
      split at h
      · cases h
      · rename_i dev hdev
        split at h
        · cases h
        · rename_i nodes₁ h₁
          obtain ⟨rfl, hok₁⟩ := exposeSiloDeviceAsFile_ok h₁
          obtain ⟨hn, hok⟩ := exposeSchemas_ok h
          exact ⟨by simp [hn, hdev], fun h => hok (hok₁ h)⟩

section Call

variable {devices : List MigrateFromDevice} {dg : String → Option String} {nodes : List Node}

/-- A successful call ran both loops and built the group in between. -/
theorem migrateFromFS_ok_inv (h : migrateFromFS env vmpath devices = .ok (dg, nodes)) :
    ∃ nodes₁ schemas, collectSchemas env vmpath devices [] [] = .ok (nodes₁, schemas) ∧
      env.newFromSchema schemas = some dg ∧ exposeSchemas env vmpath dg schemas nodes₁ = .ok nodes := by
  unfold migrateFromFS at h
  split at h
  · cases h
  next nodes₁ schemas h₁ =>
    split at h
    · cases h
    next dg' hdg =>
      split at h
      · cases h
      next nodes₂ h₂ =>
        cases h
        exact ⟨nodes₁, schemas, h₁, hdg, h₂⟩

theorem nodes_of_migrateFromFS (h : migrateFromFS env vmpath devices = .ok (dg, nodes)) :
    nodes = (devices.filter (·.shared)).map
        (fun d => ⟨joinPath vmpath d.name, env.rdev d.base⟩) ++
      (devices.filter (!·.shared)).map
        (fun d => ⟨joinPath vmpath d.name, env.rdev (devPath ((dg d.name).getD ""))⟩) := by
  obtain ⟨nodes₁, schemas, h₁, -, h₂⟩ := migrateFromFS_ok_inv h
  obtain ⟨hn₁, hs₁, -⟩ := collectSchemas_ok h₁
  have hlocal := congrArg (List.map fun name =>
    (⟨joinPath vmpath name, env.rdev (devPath ((dg name).getD ""))⟩ : Node)) hs₁
  simp only [List.map_map, List.map_nil, List.nil_append] at hlocal
  rw [(exposeSchemas_ok h₂).1, hn₁, List.nil_append]
  exact congrArg _ hlocal

theorem nodesOk_of_migrateFromFS (h : migrateFromFS env vmpath devices = .ok (dg, nodes)) :
    NodesOk env nodes := by
  obtain ⟨nodes₁, schemas, h₁, -, h₂⟩ := migrateFromFS_ok_inv h
  exact (exposeSchemas_ok h₂).2 ((collectSchemas_ok h₁).2.2 ⟨List.nodup_nil, nofun⟩)

/-- Two devices whose nodes would be at one path make `migrateFromFS` fail: the later
`Mknod` finds the node of the earlier. -/
theorem migrateFromFS_error_of_not_nodup
    (hdup : ¬ (devices.map fun d => joinPath vmpath d.name).Nodup) :
    ∃ e, migrateFromFS env vmpath devices = .error e := by
  cases h : migrateFromFS env vmpath devices with
  | error e => exact ⟨e, rfl⟩
  | ok r =>
      obtain ⟨dg, nodes⟩ := r
      have hnodup := (nodesOk_of_migrateFromFS h).1
      rw [nodes_of_migrateFromFS h, List.map_append, List.map_map, List.map_map] at hnodup
      have hperm := (List.filter_append_perm (·.shared) devices).map fun d => joinPath vmpath d.name
      rw [List.map_append] at hperm
      exact absurd (hperm.nodup_iff.1 hnodup) hdup

/-- A machine with a package of a file device `disk`, which the group exposes as `nbd0`,
and a shared device `config`. -/
def exampleEnv : Env where
  stat p :=
    if p = "/pkg/config" then some ⟨10, 7⟩
    else if p = "/pkg/disk" then some ⟨100, 0⟩
    else if p = "/dev/nbd0" then some ⟨0, 43⟩
    else none
  mkdirAllDir _ := true
  newFromSchema _ := some fun n => if n = "disk" then some "nbd0" else none

/-- `disk` before `config`. -/
def exampleDevices : List MigrateFromDevice :=
  [⟨"disk", "/pkg/disk", "", "", 4096, false⟩, ⟨"config", "/pkg/config", "", "", 4096, true⟩]

/-- Two devices whose names differ and whose nodes do not: `disk`, and the shared
`./disk`. -/
def duplicateDevices : List MigrateFromDevice :=
  [⟨"disk", "/pkg/disk", "", "", 4096, false⟩, ⟨"./disk", "/pkg/config", "", "", 4096, true⟩]

/-- The shared `./disk` gets its node `/vm/disk` first, and `disk` fails at its `Mknod`. -/
theorem migrateFromFS_error_of_not_nodup_example :
    ¬ (duplicateDevices.map fun d => joinPath "/vm" d.name).Nodup ∧
      ∃ e, migrateFromFS exampleEnv "/vm" duplicateDevices = .error e :=
  ⟨by decide, migrateFromFS_error_of_not_nodup (by decide)⟩

end Call

end Spec

end Architekt.Peer
