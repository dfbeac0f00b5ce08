import NemuPriv.GStage

namespace NemuPriv

/-- The two-stage flag and privilege `ptw` translates with: `cpu.v` and `cpu.mode`, or `MPV` and
`MPP` for data under `mstatus.MPRV`, or V=1 and `hstatus.SPVP` for HLV/HSV. -/
def ptwPriv (s : Hart) (type : MemType) : Bool × Nat :=
  if type != .ifetch then
    let (virt, mode) :=
      if s.mstatus.mprv then (s.mstatus.mpv && s.mstatus.mpp.toNat != MODE_M, s.mstatus.mpp.toNat)
      else (s.v, s.mode)
    if s.hld_st then (true, s.hstatus.spvp.toNat) else (virt, mode)
  else (s.v, s.mode)

theorem ptwPriv_of_eraseWalk {s t : Hart} (h : t.eraseWalk = s.eraseWalk) (type : MemType) :
    ptwPriv t type = ptwPriv s type := by
  have hv : t.v = s.v := (congrArg Hart.v h :)
  have hhld : t.hld_st = s.hld_st := (congrArg Hart.hld_st h :)
  have hm : t.mode = s.mode := (congrArg Hart.mode h :)
  have hms : t.mstatus = s.mstatus := (congrArg Hart.mstatus h :)
  have hhs : t.hstatus = s.hstatus := (congrArg Hart.hstatus h :)
  simp only [ptwPriv, hv, hhld, hm, hms, hhs]

def canonicalOk (max_level : Nat) (vaddr : BitVec 64) : Bool :=
  if max_level = 4 then (vaddr <<< (64 - 48)).sshiftRight (64 - 48) == vaddr
  else if max_level = 3 then (vaddr <<< (64 - 39)).sshiftRight (64 - 39) == vaddr
  else true

/-- Where the walk loop of `ptw` stops: at a leaf (`break`), or at `goto bad`. -/
inductive WalkEnd
  | leaf (level : Nat) (pte : PTE) (pg_base : BitVec 64)
  | bad (pte : PTE)

def ptwLoop (P : Platform) (vaddr : BitVec 64) (type : MemType) (virt : Bool) :
    Nat → BitVec 64 → Exec WalkEnd
  | level, pg_base => do
    let p_pte := pg_base + VPNi vaddr level * PTE_SIZE
    let p_pte ← if virt then gpaStage P p_pte vaddr type else pure p_pte
    let pte : PTE := ⟨← pteRead P p_pte type MODE_S vaddr⟩
    let pg_base := PGBASE pte.ppn
    if !pte.v || (!pte.r && pte.w) then return .bad pte
    if pte.r || pte.x || pte.pad != 0 then return .leaf level pte pg_base
    match level with
    | 0 => return .bad pte
    | level + 1 => ptwLoop P vaddr type virt level pg_base

def ptwBad (P : Platform) (pte : PTE) (vaddr : BitVec 64) (type : MemType) (virt : Bool)
    (mode : Nat) : Exec (BitVec 64) := do
  checkPermission P pte false vaddr type virt mode
  return P.memRetFail

theorem ptwBad_frame (P : Platform) (pte : PTE) (vaddr : BitVec 64) (type : MemType) (virt : Bool)
    (mode : Nat) : Frame Hart.eraseWalk (ptwBad P pte vaddr type virt mode) :=
  .bind (checkPermission_frame _ _ _ _ _ _ _) fun _ => .pure _

section Exits

variable {P : Platform} {s : Hart} {pte : PTE} {vaddr : BitVec 64} {acc : Access} {mode : Nat}

theorem ptwBad_raise (hmode : mode = MODE_U ∨ mode = MODE_S) (hamo : acc = .fetch → s.amo = false)
    (virt : Bool) :
    outcome (ptwBad P pte vaddr acc.memType virt mode s) =
      .raise (.exception (pageFault acc.memType s.amo)) := by
  apply outcome_bind_raise
  apply checkPermission_fault hmode (by cases acc <;> simp_all [Access.memType])
  cases acc <;> simp [permits, Access.memType]

end Exits

/-- The accessed/dirty check that ends `ptw` when `CONFIG_SHARE` is off. -/
def ptwCheckAD (P : Platform) (vaddr : BitVec 64) (type : MemType) (pte : PTE) : Exec Unit := do
  if !P.share && (!pte.a || (!pte.d && type == .write)) then
    let s ← get
    match type with
    | .ifetch =>
      if s.v then writeTval (guestTvalReg s EX_IPF) vaddr else writeIntrTval EX_IPF vaddr
      longjmpException EX_IPF
    | .read =>
      let ex := if s.amo then EX_SPF else EX_LPF
      if s.v then writeTval (guestTvalReg s ex) vaddr else writeIntrTval ex vaddr
      longjmpException ex
    | .write =>
      if s.v then writeTval (guestTvalReg s EX_SPF) vaddr else writeIntrTval EX_SPF vaddr
      longjmpException EX_SPF
    | _ => pure ()

section CheckAD

variable {P : Platform} {s : Hart} {pte : PTE} {vaddr : BitVec 64} {acc : Access}

theorem ptwCheckAD_ok (h : (!P.share && (!pte.a || (!pte.d && acc.memType == .write))) = false) :
    ptwCheckAD P vaddr acc.memType pte s = .ok () s := by
  simp [ptwCheckAD, h]

theorem ptwCheckAD_raise (h : (!P.share && (!pte.a || (!pte.d && acc.memType == .write))) = true) :
    outcome (ptwCheckAD P vaddr acc.memType pte s) =
      .raise (.exception (pageFault acc.memType s.amo)) := by
  unfold ptwCheckAD
  rw [if_pos h]
  cases acc <;> cases hv : s.v <;> simp [EStateM.bind, Access.memType, pageFault, hv]

end CheckAD

theorem ptwCheckAD_frame (P : Platform) (vaddr : BitVec 64) (type : MemType) (pte : PTE) :
    Frame Hart.eraseWalk (ptwCheckAD P vaddr type pte) := by
  unfold ptwCheckAD
  apply Frame.ite _ (.pure _)
  refine Frame.bind .get fun s => ?_
  cases type <;> dsimp only
  all_goals first
    | exact Frame.pure _
    | exact Frame.ite (.bind (.writeTval _ _) fun _ => .longjmp _)
        (.bind (.writeIntrTval _ _) fun _ => .longjmp _)

/-- `ptw` after its loop stopped at a leaf: the permission check, the superpage check and splice,
the G-stage translation when virtualized, and the accessed/dirty check. -/
def ptwLeaf (P : Platform) (vaddr : BitVec 64) (type : MemType) (virt : Bool) (mode level : Nat)
    (pte : PTE) (pg_base : BitVec 64) : Exec (BitVec 64) := do
  checkPermission P pte true vaddr type virt mode
  modify fun s => { s with pt_level := level }
  let pg_mask := ((1 : BitVec 64) <<< VPNiSHFT level) - 1
  if level > 0 && pg_base &&& pg_mask != 0 then ptwBad P pte vaddr type virt mode
  else
    let pg_base :=
      if level > 0 then (pg_base &&& ~~~pg_mask) ||| (vaddr &&& pg_mask &&& ~~~PGMASK) else pg_base
    if virt then
      let pg_base := (← gpaStage P (pg_base ||| (vaddr &&& PAGE_MASK)) vaddr type) &&& ~~~PAGE_MASK
      if pg_base = P.memRetFail then return P.memRetFail
      ptwCheckAD P vaddr type pte
      return pg_base ||| P.memRetOk
    else
      ptwCheckAD P vaddr type pte
      return pg_base ||| P.memRetOk

theorem ptwLeaf_frame (P : Platform) (vaddr : BitVec 64) (type : MemType) (virt : Bool)
    (mode level : Nat) (pte : PTE) (pg_base : BitVec 64) :
    Frame Hart.eraseWalk (ptwLeaf P vaddr type virt mode level pte pg_base) := by
  unfold ptwLeaf
  dsimp only
  exact Frame.bind (checkPermission_frame _ _ _ _ _ _ _) fun _ => .bind (.modify fun _ => rfl) fun _ =>
    .ite (ptwBad_frame _ _ _ _ _ _)
      (.ite (.bind (gpaStage_frame _ _ _ _) fun _ => .ite (.pure _)
          (.bind (.pure _) fun _ => .bind (ptwCheckAD_frame _ _ _ _) fun _ => .pure _))
        (.bind (ptwCheckAD_frame _ _ _ _) fun _ => .pure _))

def ptwEnd (P : Platform) (vaddr : BitVec 64) (type : MemType) (virt : Bool) (mode : Nat) :
    WalkEnd → Exec (BitVec 64)
  | .bad pte => ptwBad P pte vaddr type virt mode
  | .leaf level pte pg_base => ptwLeaf P vaddr type virt mode level pte pg_base

theorem ptwEnd_frame (P : Platform) (vaddr : BitVec 64) (type : MemType) (virt : Bool) (mode : Nat)
    (e : WalkEnd) : Frame Hart.eraseWalk (ptwEnd P vaddr type virt mode e) := by
  cases e with
  | leaf level pte pg_base => exact ptwLeaf_frame _ _ _ _ _ _ _ _
  | bad pte => exact ptwBad_frame _ _ _ _ _ _

theorem ptwLoop_direct {P : Platform} {s : Hart} {vaddr : BitVec 64} {level : Nat} {base : BitVec 64}
    (type : MemType) : (P.share && P.isInMmio (base + VPNi vaddr level * PTE_SIZE)) = false →
    ptwLoop P vaddr type false level base s =
      let pte : PTE := ⟨P.paddrRead (base + VPNi vaddr level * PTE_SIZE)⟩
      if (!pte.v || (!pte.r && pte.w)) = true then .ok (.bad pte) s
      else if (pte.r || pte.x || pte.pad != 0#64) = true then .ok (.leaf level pte (PGBASE pte.ppn)) s
      else
        match level with
        | 0 => .ok (.bad pte) s
        | l + 1 => ptwLoop P vaddr type false l (PGBASE pte.ppn) s := by
  intro hmmio
  rw [ptwLoop]
  simp only [run_bind, EStateM.bind, run_ite, run_pure, Bool.false_eq_true, if_false,
    pteRead_direct hmmio]
  cases level <;> rfl

theorem ptwLoop_virt {P : Platform} {s s' : Hart} {vaddr hpa : BitVec 64}
    (hmmio : (P.share && P.isInMmio hpa) = false) (type : MemType) (level : Nat)
    (base : BitVec 64) (hg : gpaStage P (base + VPNi vaddr level * PTE_SIZE) vaddr type s = .ok hpa s') :
    ptwLoop P vaddr type true level base s =
      let pte : PTE := ⟨P.paddrRead hpa⟩
      if (!pte.v || (!pte.r && pte.w)) = true then .ok (.bad pte) s'
      else if (pte.r || pte.x || pte.pad != 0#64) = true then .ok (.leaf level pte (PGBASE pte.ppn)) s'
      else
        match level with
        | 0 => .ok (.bad pte) s'
        | l + 1 => ptwLoop P vaddr type true l (PGBASE pte.ppn) s' := by
  rw [ptwLoop]
  simp only [run_bind, EStateM.bind, run_ite, if_true, hg, pteRead_direct hmmio]
  cases level <;> rfl

theorem ptwLoop_frame (P : Platform) (vaddr : BitVec 64) (type : MemType) (virt : Bool)
    (level : Nat) (pg_base : BitVec 64) :
    Frame Hart.eraseWalk (ptwLoop P vaddr type virt level pg_base) := by
  induction level generalizing pg_base <;> rw [ptwLoop] <;> dsimp only <;>
    refine Frame.ite (.bind (gpaStage_frame _ _ _ _) fun _ => ?_) (.bind (.pure _) fun _ => ?_) <;>
    refine Frame.bind (pteRead_frame _ _ _ _ _) fun _ =>
      .ite (.pure _) (.bind (.pure _) fun _ => .ite (.pure _) (.bind (.pure _) fun _ => ?_))
  all_goals first | exact Frame.pure _ | apply_assumption

/-- `ptw` once it chose the stage and the privilege, for the table of `atp`. At the
canonical-address `goto bad` the source passes an uninitialised `pte`, which `check_permission`
does not read when `ok` is false; the model passes 0. -/
def ptwWalk (P : Platform) (vaddr : BitVec 64) (type : MemType) (virt : Bool) (mode : Nat) (atp : Atp) :
    Exec (BitVec 64) :=
  let max_level := if atp.mode = 8 then 3 else 4
  if !canonicalOk max_level vaddr then ptwBad P ⟨0⟩ vaddr type virt mode
  else
    ptwLoop P vaddr type virt (max_level - 1) (PGBASE (atp.ppn.setWidth 64)) >>=
      ptwEnd P vaddr type virt mode

def ptw (P : Platform) (vaddr : BitVec 64) (type : MemType) : Exec (BitVec 64) := do
  let s ← get
  let (virt, mode) := ptwPriv s type
  if virt && s.vsatp.mode = 0 then
    return (← gpaStage P vaddr vaddr type) &&& ~~~PAGE_MASK
  ptwWalk P vaddr type virt mode (if virt then s.vsatp else s.satp)

theorem ptw_eq_ptwWalk {P : Platform} {s : Hart} {vaddr : BitVec 64} {type : MemType} {virt : Bool}
    {mode : Nat} (hp : ptwPriv s type = (virt, mode)) (hvs : (virt && s.vsatp.mode = 0) = false) :
    ptw P vaddr type s = ptwWalk P vaddr type virt mode (if virt then s.vsatp else s.satp) s := by
  simp only [ptw, run_bind, EStateM.bind, run_get, hp]
  rw [if_neg (by rw [hvs]; exact Bool.false_ne_true)]
  rfl

theorem ptwWalk_frame (P : Platform) (vaddr : BitVec 64) (type : MemType) (virt : Bool) (mode : Nat)
    (atp : Atp) : Frame Hart.eraseWalk (ptwWalk P vaddr type virt mode atp) :=
  .ite (ptwBad_frame _ _ _ _ _ _) (.bind (ptwLoop_frame _ _ _ _ _ _) (ptwEnd_frame _ _ _ _ _))

theorem ptw_frame (P : Platform) (vaddr : BitVec 64) (type : MemType) :
    Frame Hart.eraseWalk (ptw P vaddr type) := by
  unfold ptw
  refine Frame.bind .get fun s => ?_
  split
  exact Frame.ite (.bind (gpaStage_frame _ _ _ _) fun _ => .pure _)
    (.bind (.pure _) fun _ => ptwWalk_frame _ _ _ _ _ _)

section TrapValues

variable {cs : List (BitVec 64)} (hcs : siteTvalCauses ⊆ cs) {q : Hart → Prop} (hq : WalkStable q)
  (hg : ∀ s, q s → (s.guided_exec && s.execution_guide.force_raise_exception) = false)
  (hP : ∀ s, q s → s.v = true → GuestPfReported s) {P : Platform} {vaddr : BitVec 64}
  {type : MemType}
include hcs hq

theorem ptwBad_tval (pte : PTE) (virt : Bool) (mode : Nat) :
    Raises (tvalAt cs vaddr) q (ptwBad P pte vaddr type virt mode) :=
  .bind (checkPermission_tval hcs hq _ _ _ _ _ _ _) (checkPermission_frame _ _ _ _ _ _ _) hq fun _ => .pure _

include hg in
theorem ptwLoop_tval {virt : Bool} (hG : virt = true → ∀ s, q s → GpfReported cs s) (level : Nat)
    (pg_base : BitVec 64) : Raises (tvalAt cs vaddr) q (ptwLoop P vaddr type virt level pg_base) := by
  induction level generalizing pg_base <;> rw [ptwLoop] <;> dsimp only <;>
    refine .ite_dep (fun h => .bind (gpaStage_tval hq hg (hG h)) (gpaStage_frame _ _ _ _) hq fun _ => ?_)
      (fun _ => .bind (.pure _) (.pure _) hq fun _ => ?_) <;>
    refine .bind (pteRead_tval hcs hq _ _ _ _ _) (pteRead_frame _ _ _ _ _) hq fun _ =>
      .ite (.pure _) (.bind (.pure _) (.pure _) hq fun _ => .ite (.pure _) (.bind (.pure _) (.pure _) hq fun _ => ?_))
  all_goals first | exact Raises.pure _ | apply_assumption

omit hq in
include hP in
theorem ptwCheckAD_tval (pte : PTE) : Raises (tvalAt cs vaddr) q (ptwCheckAD P vaddr type pte) := by
  unfold ptwCheckAD
  refine .ite (Raises.bind_read fun s hs => ?_) (.pure _)
  have hr : ∀ c ∈ siteTvalCauses, c ∈ [EX_IPF, EX_LPF, EX_SPF] →
      Raises (tvalAt cs vaddr) (fun t => q t ∧ t.eraseWalk = s.eraseWalk)
        (if s.v then writeTval (guestTvalReg s c) vaddr >>= fun _ => (longjmpException c : Exec Unit)
          else writeIntrTval c vaddr >>= fun _ => longjmpException c) := fun c hc hpf =>
    .ite_dep (fun hv => .guest (hcs hc) (hP s hs hv c hpf) (fun _ ht => ht.2) (Raises.longjmp _))
      fun _ => .site (hcs hc) (Raises.longjmp _)
  cases type <;> dsimp only
  · exact hr _ (by decide) (by decide)
  · exact hr _ (by cases s.amo <;> decide) (by cases s.amo <;> decide)
  · exact hr _ (by decide) (by decide)
  all_goals exact .pure _

include hg hP in
theorem ptwLeaf_tval {virt : Bool} (hG : virt = true → ∀ s, q s → GpfReported cs s) (mode level : Nat)
    (pte : PTE) (pg_base : BitVec 64) :
    Raises (tvalAt cs vaddr) q (ptwLeaf P vaddr type virt mode level pte pg_base) := by
  unfold ptwLeaf
  dsimp only
  exact .bind (checkPermission_tval hcs hq _ _ _ _ _ _ _) (checkPermission_frame _ _ _ _ _ _ _) hq fun _ =>
    .bind (.modify_state _) (.modify fun _ => rfl) hq fun _ =>
      .ite (ptwBad_tval hcs hq _ _ _)
        (.ite_dep (fun h => .bind (gpaStage_tval hq hg (hG h)) (gpaStage_frame _ _ _ _) hq fun _ =>
            .ite (.pure _) (.bind (.pure _) (.pure _) hq fun _ =>
              .bind (ptwCheckAD_tval hcs hP _) (ptwCheckAD_frame _ _ _ _) hq fun _ => .pure _))
          fun _ => .bind (ptwCheckAD_tval hcs hP _) (ptwCheckAD_frame _ _ _ _) hq fun _ => .pure _)

include hg hP in
theorem ptwEnd_tval {virt : Bool} (hG : virt = true → ∀ s, q s → GpfReported cs s) (mode : Nat)
    (e : WalkEnd) : Raises (tvalAt cs vaddr) q (ptwEnd P vaddr type virt mode e) := by
  cases e with
  | leaf level pte pg_base => exact ptwLeaf_tval hcs hq hg hP hG _ _ _ _
  | bad pte => exact ptwBad_tval hcs hq _ _ _

include hg hP in
/-- Outside guided execution a walk raises only page, access and guest-page faults, each with
`vaddr` in the register `INTR_TVAL_REG` selects for it. -/
theorem ptw_tval (hG : ∀ s, q s → (ptwPriv s type).1 = true → GpfReported cs s) :
    Raises (tvalAt cs vaddr) q (ptw P vaddr type) := by
  unfold ptw
  refine Raises.bind_read fun s hs => ?_
  split
  rename_i virt mode hpv
  have hq' := hq.read s
  have hG' : virt = true → ∀ t, q t ∧ t.eraseWalk = s.eraseWalk → GpfReported cs t := fun hv t ht =>
    hG t ht.1 (by rw [ptwPriv_of_eraseWalk ht.2, hpv]; exact hv)
  have hg' : ∀ t, q t ∧ t.eraseWalk = s.eraseWalk → _ := fun t ht => hg t ht.1
  have hP' : ∀ t, q t ∧ t.eraseWalk = s.eraseWalk → t.v = true → GuestPfReported t :=
    fun t ht => hP t ht.1
  dsimp only
  exact .ite_dep (fun h => .bind (gpaStage_tval hq' hg' (hG' (by simp_all))) (gpaStage_frame _ _ _ _) hq'
      fun _ => .pure _)
    fun _ => .bind (.pure _) (.pure _) hq' fun _ => .ite (ptwBad_tval hcs hq' _ _ _)
      (.bind (ptwLoop_tval hcs hq' hg' hG' _ _) (ptwLoop_frame _ _ _ _ _ _) hq' (ptwEnd_tval hcs hq' hg' hP' hG' _))

end TrapValues

/-- An Sv39x4 G-stage table whose root entry 0 points to a 2 MiB leaf at the misaligned page
`0x80003`. -/
def misalignedGStage : Platform :=
  { Platform.base with
    paddrRead := fun a =>
      if a = 0x80000000 then 0x20000401
      else if a = 0x80001000 then (0x80003 <<< 10) ||| 0xdf
      else 0 }

def bareVsHart : Hart :=
  { Hart.base with mode := MODE_S, v := true, hgatp := ⟨8, 0x80000⟩ }

/-- `gpa_stage` signals the misaligned G-stage superpage by returning `MEM_RET_FAIL`, and `ptw`
masks that into the translation to page 0. -/
theorem ptw_bare_vs_misaligned_gstage :
    outcome (gpaStage misalignedGStage 0 0 .read bareVsHart) = .ret misalignedGStage.memRetFail ∧
      outcome (ptw misalignedGStage 0 .read bareVsHart) = .ret 0 ∧
      (0 : BitVec 64) &&& PAGE_MASK = misalignedGStage.memRetOk := by
  decide

end NemuPriv
