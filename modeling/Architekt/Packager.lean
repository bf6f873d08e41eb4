import Mathlib.Data.List.Forall2
import Mathlib.Data.List.Infix

/-!
# The packager: `ArchivePackage` and `ExtractPackage`

`ArchivePackage` writes one tar entry per device, in the order of its device list: the
header is named after the device and the entry holds the bytes of the file at the device's
path.  The tar stream is modelled as that list of entries.  `ExtractPackage` reads the
archive with one forward-only `tar.Reader`.  For each requested device, in the order of its
own list, it calls `Next()` until a header carries the device's name, and it writes that
entry to the device's path.  Entries it passes over on the way are gone for every later
request.

## Strategy

The inner loop is `nextNamed`.  It stops right after the first entry with the name, and
what is left is a suffix of what it read (`nextNamed_suffix`).  So a request list is served
exactly when its names form a sublist of the archive's names, in the same order
(`extractPackage_ok_iff_sublist`).  Each way is one induction over the requests: the
scan finds a name that is still ahead (`nextNamed_of_sublist`), and whatever it skips is
lost.  `archivePackage_eq_ok_iff` says what a successful archive holds.  Together they give
the round trip for requests in archive order (`extractPackage_archivePackage_in_order`).
Two devices requested in the opposite order fail with `ErrMissingDevice`
(`extractPackage_reordered_request_missing`).
-/

namespace Architekt.Packager

/-- A device to archive or to extract: `PackagerDevice`. -/
structure PackagerDevice where
  name : String
  path : String
  deriving Repr, DecidableEq

/-- One entry of the tar stream: the header's `Name` and the bytes after it. -/
structure TarEntry where
  name : String
  data : List UInt8
  deriving Repr, DecidableEq

/-- The errors of the packager. -/
inductive PackagerError
  /-- `os.Stat` (or `os.Open`) of a device's path failed: no file there. -/
  | stat (path : String)
  /-- `os.MkdirAll` of the directory or `os.OpenFile` of an output path failed. -/
  | create (path : String)
  /-- `errors.Join(fmt.Errorf("missing device: %s", device.Name), ErrMissingDevice)`:
  the reader reached `io.EOF` before a header with the device's name. -/
  | missingDevice (name : String)
  deriving Repr, DecidableEq

/-- `ArchivePackage(devices, …)` when the file at each path `p` holds `files p`: the entries
written to the archive, in order, and the error returned, if any.  A failed `os.Stat`
comes before `WriteHeader`, so the entries before it stay in the archive, which the
deferred `Close` finishes. -/
def archivePackage (files : String → Option (List UInt8)) :
    List PackagerDevice → List TarEntry × Option PackagerError
  | [] => ([], none)
  | d :: ds =>
      match files d.path with
      | none => ([], some (.stat d.path))
      | some data =>
          let r := archivePackage files ds
          (⟨d.name, data⟩ :: r.1, r.2)

/-- The inner loop of `ExtractPackage`: `packageArchive.Next()` until a header named `name`.
It returns that entry's bytes and the entries after it, or `none` at `io.EOF`. -/
def nextNamed (name : String) : List TarEntry → Option (List UInt8 × List TarEntry)
  | [] => none
  | e :: rest => if e.name = name then some (e.data, rest) else nextNamed name rest

/-- `ExtractPackage(…, devices)` on an archive whose entries are `entries`: the files it
writes, in order, as (path, bytes), and the error returned, if any.  `writable p` says
whether `os.MkdirAll` of the directory of `p` and `os.OpenFile` of `p` succeed. -/
def extractPackage (writable : String → Bool) (entries : List TarEntry) :
    List PackagerDevice → List (String × List UInt8) × Option PackagerError
  | [] => ([], none)
  | d :: ds =>
      match nextNamed d.name entries with
      | none => ([], some (.missingDevice d.name))
      | some (data, rest) =>
          if writable d.path then
            let r := extractPackage writable rest ds
            ((d.path, data) :: r.1, r.2)
          else ([], some (.create d.path))

/-! ## Archiving -/

/-- `ArchivePackage` succeeds exactly when every device's path holds a file.  It then writes
one entry per device, in order, named after the device and holding that file. -/
theorem archivePackage_eq_ok_iff {files : String → Option (List UInt8)} :
    ∀ {ds : List PackagerDevice} {entries : List TarEntry},
      archivePackage files ds = (entries, none) ↔
        (∀ d ∈ ds, (files d.path).isSome) ∧
          entries = ds.map fun d => ⟨d.name, (files d.path).getD []⟩
  | [], entries => by cases entries <;> simp [archivePackage]
  | d :: ds, entries => by
      have ih := @archivePackage_eq_ok_iff files ds
      cases hd : files d.path with
      | none => simp [archivePackage, hd]
      | some data =>
          simp only [archivePackage, hd, List.forall_mem_cons, Option.isSome_some, true_and,
            List.map_cons, Option.getD_some]
          rcases hr : archivePackage files ds with ⟨es, err⟩
          simp only [hr, Prod.mk.injEq] at ih ⊢
          constructor
          · rintro ⟨rfl, rfl⟩
            obtain ⟨hP, rfl⟩ := (@ih es).1 ⟨rfl, rfl⟩
            exact ⟨hP, rfl⟩
          · rintro ⟨hP, rfl⟩
            obtain ⟨rfl, rfl⟩ := (@ih _).2 ⟨hP, rfl⟩
            exact ⟨rfl, rfl⟩

/-! ## The scan of the tar reader -/

/-- The scan stops right after an entry with the name: what is left is a suffix of what it
read. -/
theorem nextNamed_suffix {name : String} {data : List UInt8} {rest : List TarEntry} :
    ∀ {entries : List TarEntry}, nextNamed name entries = some (data, rest) →
      (⟨name, data⟩ :: rest) <:+ entries
  | [], h => by cases h
  | ⟨n, d⟩ :: entries, h => by
      simp only [nextNamed] at h
      split at h
      · cases h
        subst n
        exact List.suffix_refl _
      · exact (nextNamed_suffix h).trans (List.suffix_cons _ _)

/-- A name still ahead of the reader, followed by more names in order, is found, and the
names after it are still ahead. -/
theorem nextNamed_of_sublist {name : String} {names : List String} :
    ∀ {entries : List TarEntry}, (name :: names).Sublist (entries.map TarEntry.name) →
      ∃ data rest, nextNamed name entries = some (data, rest) ∧
        names.Sublist (rest.map TarEntry.name)
  | [], h => absurd h (by simp)
  | e :: entries, h => by
      by_cases he : e.name = name
      · rw [List.map_cons, he, List.cons_sublist_cons] at h
        exact ⟨e.data, entries, by simp [nextNamed, he], h⟩
      · have h' : (name :: names).Sublist (entries.map TarEntry.name) :=
          (List.sublist_cons_iff.1 h).resolve_right fun ⟨_, heq, _⟩ => he (List.cons.inj heq).1.symm
        simpa [nextNamed, he] using nextNamed_of_sublist h'

/-! ## Extraction -/

section Extract

variable {writable : String → Bool}

/-- Requests whose names are a sublist of the archive's names, at writable paths, are all
served: each gets the bytes of an entry with its name. -/
theorem extractPackage_ok_of_sublist :
    ∀ {entries : List TarEntry} {rs : List PackagerDevice},
      (rs.map PackagerDevice.name).Sublist (entries.map TarEntry.name) →
      (∀ r ∈ rs, writable r.path = true) →
      ∃ writes, extractPackage writable entries rs = (writes, none) ∧
        List.Forall₂ (fun r w => w.1 = r.path ∧ ⟨r.name, w.2⟩ ∈ entries) rs writes
  | _, [], _, _ => ⟨[], rfl, .nil⟩
  | entries, r :: rs, h, hw => by
      obtain ⟨data, rest, hnext, hrest⟩ := nextNamed_of_sublist h
      have hsuf := nextNamed_suffix hnext
      obtain ⟨writes, hext, hall⟩ :=
        extractPackage_ok_of_sublist hrest fun r' hr' => hw r' (List.mem_cons_of_mem _ hr')
      refine ⟨(r.path, data) :: writes, ?_, .cons ⟨rfl, hsuf.subset (List.mem_cons_self _ _)⟩ ?_⟩
      · simp [extractPackage, hnext, hw r (List.mem_cons_self _ _), hext]
      · exact hall.imp fun _ _ hw' => ⟨hw'.1, hsuf.subset (List.mem_cons_of_mem _ hw'.2)⟩

/-- A served request list is a sublist of the archive's names, at writable paths. -/
theorem sublist_of_extractPackage_ok :
    ∀ {entries : List TarEntry} {rs : List PackagerDevice},
      (extractPackage writable entries rs).2 = none →
      (rs.map PackagerDevice.name).Sublist (entries.map TarEntry.name) ∧
        ∀ r ∈ rs, writable r.path = true
  | _, [], _ => ⟨List.nil_sublist _, nofun⟩
  | entries, r :: rs, h => by
      simp only [extractPackage] at h
      split at h
      · cases h
      · rename_i data rest hnext
        split at h
        · obtain ⟨hsub, hw⟩ := sublist_of_extractPackage_ok h
          refine ⟨?_, List.forall_mem_cons.2 ⟨‹_›, hw⟩⟩
          exact (hsub.cons₂ r.name).trans ((nextNamed_suffix hnext).sublist.map TarEntry.name)
        · cases h

/-- `ExtractPackage` succeeds exactly when the requested names appear among the archive's
names in the same order, and every requested path is writable. -/
theorem extractPackage_ok_iff_sublist (entries : List TarEntry) (rs : List PackagerDevice) :
    (extractPackage writable entries rs).2 = none ↔
      (rs.map PackagerDevice.name).Sublist (entries.map TarEntry.name) ∧
        ∀ r ∈ rs, writable r.path = true :=
  ⟨sublist_of_extractPackage_ok, fun ⟨hsub, hw⟩ => by
    obtain ⟨writes, h, -⟩ := extractPackage_ok_of_sublist hsub hw
    rw [h]⟩

end Extract

/-! ## The round trip -/

/-- Archive then extract, with the requests in the order of the archived devices: every
request is served, and the file written to its path holds the bytes that `ArchivePackage`
read from the path of a device with the same name. -/
theorem extractPackage_archivePackage_in_order {files : String → Option (List UInt8)}
    {writable : String → Bool} {ds rs : List PackagerDevice} {entries : List TarEntry}
    (hds : archivePackage files ds = (entries, none))
    (hrs : (rs.map PackagerDevice.name).Sublist (ds.map PackagerDevice.name))
    (hw : ∀ r ∈ rs, writable r.path = true) :
    ∃ writes, extractPackage writable entries rs = (writes, none) ∧
      List.Forall₂ (fun r w => w.1 = r.path ∧ ∃ d ∈ ds, d.name = r.name ∧ files d.path = some w.2)
        rs writes := by
  obtain ⟨hfiles, rfl⟩ := archivePackage_eq_ok_iff.1 hds
  have hnames : ((ds.map fun d => (⟨d.name, (files d.path).getD []⟩ : TarEntry)).map
      TarEntry.name) = ds.map PackagerDevice.name := by simp [Function.comp_def]
  obtain ⟨writes, hext, hall⟩ := extractPackage_ok_of_sublist (hnames ▸ hrs) hw
  refine ⟨writes, hext, hall.imp fun r w ⟨hpath, hmem⟩ => ⟨hpath, ?_⟩⟩
  obtain ⟨d, hd, hdw⟩ := List.mem_map.1 hmem
  simp only [TarEntry.mk.injEq] at hdw
  obtain ⟨data, hdata⟩ := Option.isSome_iff_exists.1 (hfiles d hd)
  exact ⟨d, hd, hdw.1, by rw [← hdw.2, hdata, Option.getD_some]⟩

/-- Two devices archived as `a`, `b`, and `b` alone requested. -/
theorem extractPackage_archivePackage_second_device :
    archivePackage (fun _ => some [0]) [⟨"a", "a.img"⟩, ⟨"b", "b.img"⟩] =
        ([⟨"a", [0]⟩, ⟨"b", [0]⟩], none) ∧
      List.Sublist (List.map PackagerDevice.name [⟨"b", "out/b.img"⟩])
        (List.map PackagerDevice.name [⟨"a", "a.img"⟩, ⟨"b", "b.img"⟩]) ∧
      (∀ r ∈ ([⟨"b", "out/b.img"⟩] : List PackagerDevice), (fun _ => true) r.path = true) ∧
      ∃ writes, extractPackage (fun _ => true) [⟨"a", [0]⟩, ⟨"b", [0]⟩] [⟨"b", "out/b.img"⟩] =
          (writes, none) ∧
        List.Forall₂ (fun (r : PackagerDevice) (w : String × List UInt8) => w.1 = r.path ∧
          ∃ d ∈ ([⟨"a", "a.img"⟩, ⟨"b", "b.img"⟩] : List PackagerDevice),
          PackagerDevice.name d = r.name ∧ (fun _ => some [0]) d.path = some w.2)
          [⟨"b", "out/b.img"⟩] writes :=
  have hds : archivePackage (fun _ => some [0]) [⟨"a", "a.img"⟩, ⟨"b", "b.img"⟩] =
      ([⟨"a", [0]⟩, ⟨"b", [0]⟩], none) := rfl
  have hrs : List.Sublist (List.map PackagerDevice.name [⟨"b", "out/b.img"⟩])
      (List.map PackagerDevice.name [⟨"a", "a.img"⟩, ⟨"b", "b.img"⟩]) := by decide
  have hw : ∀ r ∈ ([⟨"b", "out/b.img"⟩] : List PackagerDevice), (fun _ => true) r.path = true :=
    by decide
  ⟨hds, hrs, hw, extractPackage_archivePackage_in_order hds hrs hw⟩

/-- The first request to be served takes its device's entry, and the reader has then passed
every entry before it: a device archived before a device requested earlier is missing,
although the archive holds it. -/
theorem extractPackage_reordered_request_missing :
    ∃ (files : String → Option (List UInt8)) (ds rs : List PackagerDevice)
      (entries : List TarEntry),
      (ds.map PackagerDevice.name).Nodup ∧ (rs.map PackagerDevice.name).Nodup ∧
        (∀ r ∈ rs, ∃ d ∈ ds, d.name = r.name) ∧ archivePackage files ds = (entries, none) ∧
        extractPackage (fun _ => true) entries rs =
          ([("out/b.img", [2])], some (.missingDevice "a")) :=
  ⟨fun p => if p = "a.img" then some [1] else some [2], [⟨"a", "a.img"⟩, ⟨"b", "b.img"⟩],
    [⟨"b", "out/b.img"⟩, ⟨"a", "out/a.img"⟩], [⟨"a", [1]⟩, ⟨"b", [2]⟩], by decide⟩

end Architekt.Packager
