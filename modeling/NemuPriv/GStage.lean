import NemuPriv.Permission

namespace NemuPriv

/-- The end of an iteration of `gpa_stage`'s loop on an entry that is not a pointer: every
`break` ends in the `raise_guest_excep` after the loop. -/
def gpaStageLeaf (P : Platform) (gpaddr vaddr : BitVec 64) (type : MemType) (level : Nat)
    (pte : PTE) : Exec (BitVec 64) := do
  let s ← get
  -- `PGBASE(pte.ppn)` with no cast: the shift is made on the 44-bit bit-field
  let pg_base := (PGBASE pte.ppnField).setWidth 64
  if !pte.v || (!pte.r && pte.w) then raiseGuestExcep gpaddr vaddr type
  else if !pte.u then raiseGuestExcep gpaddr vaddr type
  else if (if type == .ifetch || s.hlvx then !pte.x
      else if type == .read then !pte.r && !(s.mstatus.mxr && pte.x)
      else !(pte.r && pte.w)) then
    raiseGuestExcep gpaddr vaddr type
  else if level > 0 then
    let pg_mask := ((1 : BitVec 64) <<< VPNiSHFT level) - 1
    if pg_base &&& pg_mask != 0 then return P.memRetFail
    let pg_base := (pg_base &&& ~~~pg_mask) ||| (gpaddr &&& pg_mask &&& ~~~PGMASK)
    return pg_base ||| (gpaddr &&& PAGE_MASK)
  else return pg_base ||| (gpaddr &&& PAGE_MASK)

def gpaStageLoop (P : Platform) (gpaddr vaddr : BitVec 64) (type : MemType) :
    Nat → BitVec 64 → Exec (BitVec 64)
  | level, pg_base =>
    let p_pte := pg_base + GVPNi gpaddr level * PTE_SIZE
    let pte : PTE := ⟨P.paddrRead p_pte⟩
    if pte.v && !pte.r && !pte.w && !pte.x then
      match level with
      | 0 => raiseGuestExcep gpaddr vaddr type
      | level + 1 => gpaStageLoop P gpaddr vaddr type level ((PGBASE pte.ppnField).setWidth 64)
    else gpaStageLeaf P gpaddr vaddr type level pte

theorem gpaStageLoop_eq (P : Platform) (gpaddr vaddr : BitVec 64) (type : MemType) (level : Nat)
    (pg_base : BitVec 64) :
    gpaStageLoop P gpaddr vaddr type level pg_base =
      let pte : PTE := ⟨P.paddrRead (pg_base + GVPNi gpaddr level * PTE_SIZE)⟩
      if pte.v && !pte.r && !pte.w && !pte.x then
        match level with
        | 0 => raiseGuestExcep gpaddr vaddr type
        | l + 1 => gpaStageLoop P gpaddr vaddr type l ((PGBASE pte.ppnField).setWidth 64)
      else gpaStageLeaf P gpaddr vaddr type level pte := by
  cases level <;> rfl

theorem gpaStageLeaf_frame (P : Platform) (gpaddr vaddr : BitVec 64) (type : MemType) (level : Nat)
    (pte : PTE) : Frame Hart.eraseWalk (gpaStageLeaf P gpaddr vaddr type level pte) := by
  have rge : Frame Hart.eraseWalk (raiseGuestExcep gpaddr vaddr type : Exec (BitVec 64)) :=
    raiseGuestExcep_frame _ _ _
  exact .bind .get fun _ => .ite rge (.ite rge (.ite rge
    (.ite (.ite (.pure _) (.bind (.pure _) fun _ => .pure _)) (.pure _))))

theorem gpaStageLoop_frame (P : Platform) (gpaddr vaddr : BitVec 64) (type : MemType) (level : Nat)
    (pg_base : BitVec 64) : Frame Hart.eraseWalk (gpaStageLoop P gpaddr vaddr type level pg_base) := by
  induction level generalizing pg_base <;> refine .ite ?_ (gpaStageLeaf_frame _ _ _ _ _ _)
  next => exact raiseGuestExcep_frame _ _ _
  next l ih => exact ih _

def gpaStage (P : Platform) (gpaddr vaddr : BitVec 64) (type : MemType) : Exec (BitVec 64) := do
  modify fun s => { s with pt_level := 0 }
  let s ← get
  if s.hgatp.mode = 0 then return gpaddr
  let max_level ←
    if s.hgatp.mode = 9 then do
      if gpaddr &&& ~~~(((1 : BitVec 64) <<< 50) - 1) != 0 then raiseGuestExcep gpaddr vaddr type
      pure 4
    else if s.hgatp.mode = 8 then do
      if gpaddr &&& ~~~(((1 : BitVec 64) <<< 41) - 1) != 0 then raiseGuestExcep gpaddr vaddr type
      pure 3
    else pure 0
  match max_level with
  | 0 => raiseGuestExcep gpaddr vaddr type
  | level + 1 => gpaStageLoop P gpaddr vaddr type level (PGBASE (s.hgatp.ppn.setWidth 64))

theorem gpaStage_frame (P : Platform) (gpaddr vaddr : BitVec 64) (type : MemType) :
    Frame Hart.eraseWalk (gpaStage P gpaddr vaddr type) := by
  have rge : Frame Hart.eraseWalk (raiseGuestExcep gpaddr vaddr type : Exec Unit) :=
    raiseGuestExcep_frame _ _ _
  unfold gpaStage
  dsimp only
  refine Frame.bind (.modify fun _ => rfl) fun _ => .bind .get fun s => .ite (.pure _) (.bind (.pure _) fun _ => ?_)
  have tail : ∀ m : Nat, Frame Hart.eraseWalk (match m with
      | 0 => raiseGuestExcep gpaddr vaddr type
      | level + 1 => gpaStageLoop P gpaddr vaddr type level (PGBASE (s.hgatp.ppn.setWidth 64)))
    | 0 => raiseGuestExcep_frame _ _ _
    | _ + 1 => gpaStageLoop_frame _ _ _ _ _ _
  exact Frame.ite (.ite (.bind rge fun _ => .bind (.pure _) fun _ => tail _)
      (.bind (.pure _) fun _ => .bind (.pure _) fun _ => tail _))
    (.ite (.ite (.bind rge fun _ => .bind (.pure _) fun _ => tail _)
      (.bind (.pure _) fun _ => .bind (.pure _) fun _ => tail _)) (.bind (.pure _) fun _ => tail _))

section TrapValues

variable {q : Hart → Prop} (hq : WalkStable q)
  (hg : ∀ s, q s → (s.guided_exec && s.execution_guide.force_raise_exception) = false)
  {P : Platform} {gpaddr vaddr : BitVec 64} {type : MemType}
include hq hg

theorem gpaStageLeaf_gpf (level : Nat) (pte : PTE) :
    Raises (gpfAt gpaddr vaddr) q (gpaStageLeaf P gpaddr vaddr type level pte) := by
  have rge : Raises (gpfAt gpaddr vaddr) q (raiseGuestExcep gpaddr vaddr type : Exec (BitVec 64)) :=
    raiseGuestExcep_gpf hq hg _ _ _
  exact .bind_get fun _ _ => .ite rge (.ite rge (.ite rge
    (.ite (.ite (.pure _) (.bind (.pure _) (.pure _) hq fun _ => .pure _)) (.pure _))))

theorem gpaStageLoop_gpf (level : Nat) (pg_base : BitVec 64) :
    Raises (gpfAt gpaddr vaddr) q (gpaStageLoop P gpaddr vaddr type level pg_base) := by
  induction level generalizing pg_base <;> refine .ite ?_ (gpaStageLeaf_gpf hq hg _ _)
  next => exact raiseGuestExcep_gpf hq hg _ _ _
  next l ih => exact ih _

/-- Outside guided execution every fault of `gpa_stage` is a guest-page fault with `vaddr` and
`gpaddr >> 2` in the register pair `raise_guest_excep` writes. -/
theorem gpaStage_gpf : Raises (gpfAt gpaddr vaddr) q (gpaStage P gpaddr vaddr type) := by
  have rge : Raises (gpfAt gpaddr vaddr) q (raiseGuestExcep gpaddr vaddr type : Exec Unit) :=
    raiseGuestExcep_gpf hq hg _ _ _
  unfold gpaStage
  dsimp only
  refine .bind (.modify_state _) (.modify fun _ => rfl) hq fun _ =>
    .bind_get fun s _ => .ite (.pure _) (.bind (.pure _) (.pure _) hq fun _ => ?_)
  refine .ite (.ite (.bind rge (raiseGuestExcep_frame _ _ _) hq fun _ => ?_)
      (.bind (.pure _) (.pure _) hq fun _ => ?_))
    (.ite (.ite (.bind rge (raiseGuestExcep_frame _ _ _) hq fun _ => ?_)
      (.bind (.pure _) (.pure _) hq fun _ => ?_)) ?_)
  all_goals exact .bind (.pure _) (.pure _) hq fun
    | 0 => raiseGuestExcep_gpf hq hg _ _ _
    | _ + 1 => gpaStageLoop_gpf hq hg _ _

theorem gpaStage_tval {cs : List (BitVec 64)} (hG : ∀ s, q s → GpfReported cs s) :
    Raises (tvalAt cs vaddr) q (gpaStage P gpaddr vaddr type) :=
  (gpaStage_gpf hq hg).post (gpaStage_frame _ _ _ _) fun s hs c t ht ⟨hc, hv, _⟩ => by
    obtain ⟨hcs, hvs⟩ := hG s hs c hc
    refine ⟨hcs, ?_⟩
    rw [intrTvalReg, intrDelegVS_of_eraseWalk ht, hvs]
    simpa using hv

end TrapValues

/-- Host memory whose one nonzero word, entry 0 of a root table at `0x80000000`, is a user leaf at
page 0 with R, W, X, A and D set. -/
def rootLeafPlatform : Platform :=
  { Platform.base with paddrRead := fun a => if a = 0x80000000 then 0xdf else 0 }

def sv48x4Hart : Hart := { Hart.base with mode := MODE_S, v := true, hgatp := ⟨9, 0x80000⟩ }

/-- At guest-physical `2^48` the Sv48x4 walk reads root entry 0, where the index `gpa[49:39]` is
512 and names an invalid entry, and returns host address 0. -/
theorem gpaStage_sv48x4_root_index :
    outcome (gpaStage rootLeafPlatform (1 <<< 48) (1 <<< 48) .read sv48x4Hart) = .ret 0 ∧
      (((1 : BitVec 64) <<< 48) >>> 39) &&& 0x7ff = 512 ∧
      (PTE.mk (rootLeafPlatform.paddrRead (0x80000000 + 512 * 8))).v = false := by
  decide

end NemuPriv
