import Architekt.Transition
import Architekt.Convergence
import Architekt.Suspend
import Architekt.BlockRange
import Architekt.MigrateTo.Model
import Architekt.MigrateTo.Latch
import Architekt.MigrateTo.DirtySync
import Architekt.MigrateTo.Sends
import Architekt.DirtyManager.Model
import Architekt.DirtyManager.Latch
import Architekt.DirtyManager.DirtySync
import Architekt.MigrateFrom.Model
import Architekt.MigrateFrom.Handlers
import Architekt.MigrateFrom.LocalDevices
import Architekt.MigrateTo.Wire
import Architekt.Migration
import Architekt.Mounter
import Architekt.Handover
import Architekt.Packager
import Architekt.Peer.MigrateFromFS
import Architekt.Stages
import Architekt.AgentServer
import Architekt.Runner
import Architekt.ResumedRunner
import Architekt.Snapshotter
