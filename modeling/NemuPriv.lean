import NemuPriv.State
import NemuPriv.Trap
import NemuPriv.TrapSpec
import NemuPriv.Permission
import NemuPriv.GStage
import NemuPriv.Walk
import NemuPriv.Reference
import NemuPriv.Refinement
import NemuPriv.Check
import NemuPriv.GStageRefinement
import NemuPriv.TwoStage
import NemuPriv.Pmp
import NemuPriv.PmpTable
import NemuPriv.System
import NemuPriv.Handler
