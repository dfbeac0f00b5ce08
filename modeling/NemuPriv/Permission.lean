import NemuPriv.Trap

namespace NemuPriv

/-- `check_permission` of the hypervisor build. It returns only when the access is allowed: the
`return false` after each `longjmp_exception` is dead. -/
def checkPermission (P : Platform) (pte : PTE) (ok : Bool) (vaddr : BitVec 64) (type : MemType)
    (virt : Bool) (mode : Nat) : Exec Unit := do
  let s ← get
  let ifetch := type == .ifetch
  assert (mode == MODE_U || mode == MODE_S)
  let ok := ok && pte.v
  let ok := ok && !(mode == MODE_U && !pte.u)
  let ok := ok && !(pte.u && (mode == MODE_S &&
    (!(if virt then s.vsstatus.sum else s.mstatus.sum) || ifetch)))
  if ifetch then
    let update_ad := P.share && !pte.a
    if !(ok && pte.x && pte.pad == 0) || update_ad then
      assert !s.amo
      writeIntrTval EX_IPF vaddr
      longjmpException EX_IPF
  else if type == .read then
    let can_load :=
      if s.hlvx then pte.x else pte.r || ((s.mstatus.mxr || (s.vsstatus.mxr && virt)) && pte.x)
    let update_ad := P.share && !pte.a
    if !(ok && can_load && pte.pad == 0) || update_ad then
      let ex := if s.amo then EX_SPF else EX_LPF
      writeIntrTval ex vaddr
      modify fun s => { s with amo := false }
      longjmpException ex
  else
    let update_ad := P.share && (!pte.a || !pte.d)
    if !(ok && pte.w && pte.pad == 0) || update_ad then
      writeIntrTval EX_SPF vaddr
      modify fun s => { s with amo := false }
      longjmpException EX_SPF

def pageFault (type : MemType) (amo : Bool) : BitVec 64 :=
  if type == .ifetch then EX_IPF else if type == .read then (if amo then EX_SPF else EX_LPF) else EX_SPF

def permits (P : Platform) (s : Hart) (pte : PTE) (ok : Bool) (type : MemType) (virt : Bool)
    (mode : Nat) : Bool :=
  let ok := ok && pte.v
  let ok := ok && !(mode == MODE_U && !pte.u)
  let ok := ok && !(pte.u && (mode == MODE_S &&
    (!(if virt then s.vsstatus.sum else s.mstatus.sum) || type == .ifetch)))
  if type == .ifetch then !(!(ok && pte.x && pte.pad == 0) || (P.share && !pte.a))
  else if type == .read then
    let can_load :=
      if s.hlvx then pte.x else pte.r || ((s.mstatus.mxr || (s.vsstatus.mxr && virt)) && pte.x)
    !(!(ok && can_load && pte.pad == 0) || (P.share && !pte.a))
  else !(!(ok && pte.w && pte.pad == 0) || (P.share && (!pte.a || !pte.d)))

section CheckPermission

variable {P : Platform} {s : Hart} {pte : PTE} {ok virt : Bool} {vaddr : BitVec 64}
  {type : MemType} {mode : Nat}

theorem checkPermission_permits (hmode : mode = MODE_U ∨ mode = MODE_S)
    (h : permits P s pte ok type virt mode = true) :
    checkPermission P pte ok vaddr type virt mode s = .ok () s := by
  have hm : (mode == MODE_U || mode == MODE_S) = true := by rcases hmode with rfl | rfl <;> rfl
  cases type <;>
    simp only [checkPermission, permits, run_bind, EStateM.bind, run_get, run_assert, hm, if_true,
      run_ite, beq_self_eq_true, reduceCtorEq, Bool.false_eq_true, if_false, beq_iff_eq,
      Bool.not_eq_true'] at h ⊢ <;>
    simp only [h, Bool.false_eq_true, if_false, run_pure]

theorem checkPermission_fault (hmode : mode = MODE_U ∨ mode = MODE_S)
    (hamo : type = .ifetch → s.amo = false) (h : permits P s pte ok type virt mode = false) :
    outcome (checkPermission P pte ok vaddr type virt mode s) =
      .raise (.exception (pageFault type s.amo)) := by
  have hm : (mode == MODE_U || mode == MODE_S) = true := by rcases hmode with rfl | rfl <;> rfl
  cases type <;>
    simp only [checkPermission, permits, run_bind, EStateM.bind, run_get, run_assert, hm, if_true,
      run_ite, beq_self_eq_true, reduceCtorEq, Bool.false_eq_true, if_false, beq_iff_eq,
      Bool.not_eq_false'] at h ⊢ <;>
    simp only [h, if_true] <;> simp [hamo, pageFault]

theorem checkPermission_frame (P : Platform) (pte : PTE) (ok : Bool) (vaddr : BitVec 64)
    (type : MemType) (virt : Bool) (mode : Nat) :
    Frame Hart.eraseWalk (checkPermission P pte ok vaddr type virt mode) := by
  unfold checkPermission
  refine Frame.bind .get fun s => Frame.bind (.assert _) fun _ => ?_
  exact Frame.ite (.ite (.bind (.assert _) fun _ => .bind (.writeIntrTval _ _) fun _ => .longjmp _) (.pure _))
    (.ite (.ite (.bind (.writeIntrTval _ _) fun _ => .bind (.modify fun _ => rfl) fun _ => .longjmp _) (.pure _))
      (.ite (.bind (.writeIntrTval _ _) fun _ => .bind (.modify fun _ => rfl) fun _ => .longjmp _) (.pure _)))

end CheckPermission

def pteRead (P : Platform) (addr : BitVec 64) (type : MemType) (_mode : Nat) (vaddr : BitVec 64) :
    Exec (BitVec 64) := do
  if P.share && P.isInMmio addr then
    let cause := if type == .ifetch then EX_IAF else if type == .write then EX_SAF else EX_LAF
    writeIntrTval cause vaddr
    longjmpException cause
  pure (P.paddrRead addr)

theorem pteRead_direct {P : Platform} {addr : BitVec 64} (hmmio : (P.share && P.isInMmio addr) = false)
    (type : MemType) (mode : Nat) (vaddr : BitVec 64) (s : Hart) :
    pteRead P addr type mode vaddr s = .ok (P.paddrRead addr) s := by
  simp [pteRead, hmmio]

theorem pteRead_frame (P : Platform) (addr : BitVec 64) (type : MemType) (mode : Nat)
    (vaddr : BitVec 64) : Frame Hart.eraseWalk (pteRead P addr type mode vaddr) := by
  unfold pteRead
  dsimp only
  exact Frame.ite (.bind (.writeIntrTval _ _) fun _ => .bind (.longjmp _) fun _ => .pure _)
    (.bind (.pure _) fun _ => .pure _)

/-- The read half of an AMO whose page-table-entry read hits MMIO raises a load access fault. -/
theorem pteRead_amo_load_access_fault :
    outcome (pteRead { Platform.base with share := true, isInMmio := fun _ => true } 0x80000000
      .read MODE_S 0x1000 { Hart.base with mode := MODE_S, amo := true }) =
      .raise (.exception EX_LAF) := by
  decide

/-- `force_raise_pf_record` and `force_raise_gpf_record`, for recorder `r`, over the recorder's
static `last_addr` and `force_count` held in the state. -/
def forceRecord (r : Recorder) (vaddr : BitVec 64) (type : MemType) : Exec Bool := do
  let s ← get
  if vaddr != s.last_addr (r, type) then
    set { s with
      last_addr := Function.update s.last_addr (r, type) vaddr
      force_count := Function.update s.force_count (r, type) 0 }
  modify fun s =>
    { s with force_count := Function.update s.force_count (r, type) (s.force_count (r, type) + 1) }
  return (← get).force_count (r, type) == 5

def forceRaisePfRecord (vaddr : BitVec 64) (type : MemType) : Exec Bool := forceRecord .pf vaddr type

def forceRaiseGpfRecord (vaddr : BitVec 64) (type : MemType) : Exec Bool :=
  forceRecord .gpf vaddr type

theorem forceRecord_step (r : Recorder) (vaddr : BitVec 64) (type : MemType) (s : Hart) :
    forceRecord r vaddr type s =
      .ok ((if s.last_addr (r, type) = vaddr then s.force_count (r, type) else 0) + 1 == 5)
        { s with
          last_addr := Function.update s.last_addr (r, type) vaddr
          force_count := Function.update s.force_count (r, type)
            ((if s.last_addr (r, type) = vaddr then s.force_count (r, type) else 0) + 1) } := by
  by_cases h : s.last_addr (r, type) = vaddr
  · have hl : Function.update s.last_addr (r, type) vaddr = s.last_addr := by
      rw [← h, Function.update_eq_self]
    simp [forceRecord, EStateM.bind, Functor.map, EStateM.map, h, hl]
  · simp [forceRecord, EStateM.bind, Functor.map, EStateM.map, h, Ne.symm h, Function.update_idem]

theorem forceRecord_frame (r : Recorder) (vaddr : BitVec 64) (type : MemType) :
    Frame Hart.eraseWalk (forceRecord r vaddr type) := fun s => by
  rw [forceRecord_step]
  rfl

def forceRecordRun (r : Recorder) (vaddr : BitVec 64) (type : MemType) : Nat → Exec (List Bool)
  | 0 => pure []
  | n + 1 => do
    let bs ← forceRecordRun r vaddr type n
    let b ← forceRecord r vaddr type
    return bs ++ [b]

theorem forceRecordRun_succ (r : Recorder) (vaddr : BitVec 64) (type : MemType) (s : Hart)
    (n : Nat) :
    forceRecordRun r vaddr type (n + 1) s =
      .ok ((List.range (n + 1)).map fun k =>
          (if s.last_addr (r, type) = vaddr then s.force_count (r, type) else 0) +
            BitVec.ofNat 32 (k + 1) == 5)
        { s with
          last_addr := Function.update s.last_addr (r, type) vaddr
          force_count := Function.update s.force_count (r, type)
            ((if s.last_addr (r, type) = vaddr then s.force_count (r, type) else 0) +
              BitVec.ofNat 32 (n + 1)) } := by
  induction n with
  | zero =>
    simp [forceRecordRun, EStateM.bind, Functor.map, EStateM.map, forceRecord_step]
    rfl
  | succ n ih =>
    have hc : ∀ c : BitVec 32, c + BitVec.ofNat 32 (n + 1) + 1#32 = c + BitVec.ofNat 32 (n + 1 + 1) :=
      fun c => by rw [BitVec.add_assoc]; congr 1; bv_omega
    rw [forceRecordRun, run_bind, EStateM.bind, ih]
    simp [forceRecord_step, EStateM.bind, Functor.map, EStateM.map, List.range_succ,
      Function.update_idem, hc]

/-- In a run of calls for one address and type, from another address, the `m`-th call returns
true exactly when `m` is 5 modulo `2^32`: the C `int` counter wraps. -/
theorem forceRecordRun_fifth (r : Recorder) (vaddr : BitVec 64) (type : MemType) (n : Nat)
    (s : Hart) (h : s.last_addr (r, type) ≠ vaddr) :
    outcome (forceRecordRun r vaddr type n s) =
      .ret ((List.range n).map fun k => (k + 1) % 2 ^ 32 == 5) := by
  have hb : ∀ m, BitVec.ofNat 32 m = 5#32 ↔ m % 2 ^ 32 = 5 := fun m => by
    rw [BitVec.toNat_eq]; simp
  cases n with
  | zero => rfl
  | succ n => simp [forceRecordRun_succ, h, hb]

theorem forceRecordRun_fifth_of_six :
    outcome (forceRecordRun .pf 0x1000 .read 6 Hart.base) =
      .ret [false, false, false, false, true, false] :=
  forceRecordRun_fifth .pf 0x1000 .read 6 Hart.base (by decide)

def forceRaisePf (vaddr : BitVec 64) (type : MemType) : Exec Unit := do
  let s ← get
  let ifetch := type == .ifetch
  let g := s.execution_guide
  if s.guided_exec && g.force_raise_exception then
    if ifetch && g.exception_num == EX_IPF then
      if (← forceRaisePfRecord vaddr type) then return
      let s ← get
      if intrDelegVS s EX_IPF then writeTval .vstval g.vstval
      else if intrDelegS s EX_IPF then writeTval .stval g.stval
      else writeTval .mtval g.mtval
      longjmpException EX_IPF
    else if !ifetch && type == .read && g.exception_num == EX_LPF then
      if (← forceRaisePfRecord vaddr type) then return
      writeIntrTval EX_LPF vaddr
      longjmpException EX_LPF
    else if type == .write && g.exception_num == EX_SPF then
      if (← forceRaisePfRecord vaddr type) then return
      writeIntrTval EX_SPF vaddr
      longjmpException EX_SPF

theorem forceRaisePf_frame (vaddr : BitVec 64) (type : MemType) :
    Frame Hart.eraseWalk (forceRaisePf vaddr type) := by
  unfold forceRaisePf
  dsimp only
  have hr := forceRecord_frame .pf vaddr type
  have fault : ∀ ex, Frame Hart.eraseWalk
      (do writeIntrTval ex vaddr; longjmpException ex : Exec Unit) := fun ex =>
    .bind (.writeIntrTval _ _) fun _ => .longjmp _
  refine Frame.bind .get fun s => Frame.ite (Frame.ite ?_ (Frame.ite ?_ (Frame.ite ?_ (.pure _)))) (.pure _)
  · refine Frame.bind hr fun _ => Frame.ite (.pure _) (.bind (.pure _) fun _ => .bind .get fun _ => ?_)
    exact Frame.ite (.bind (.writeTval _ _) fun _ => .longjmp _)
      (.ite (.bind (.writeTval _ _) fun _ => .longjmp _) (.bind (.writeTval _ _) fun _ => .longjmp _))
  · exact Frame.bind hr fun _ => Frame.ite (.pure _) (.bind (.pure _) fun _ => fault _)
  · exact Frame.bind hr fun _ => Frame.ite (.pure _) (.bind (.pure _) fun _ => fault _)

/-- `force_raise_gpf`. Its store branch writes `vaddr` through `INTR_TVAL_REG(EX_SPF)`. -/
def forceRaiseGpf (vaddr : BitVec 64) (type : MemType) : Exec Unit := do
  let s ← get
  let ifetch := type == .ifetch
  let g := s.execution_guide
  if s.guided_exec && g.force_raise_exception then
    if ifetch && g.exception_num == EX_IGPF then
      if (← forceRaiseGpfRecord vaddr type) then return
      if intrDelegS (← get) EX_IGPF then
        writeTval .stval g.stval
        writeTval .htval g.htval
      else
        writeTval .mtval g.mtval
        writeTval .mtval2 g.mtval2
      longjmpException EX_IGPF
    else if !ifetch && type == .read && g.exception_num == EX_LGPF then
      if (← forceRaiseGpfRecord vaddr type) then return
      writeIntrTval EX_LGPF vaddr
      writeTval .htval g.htval
      writeTval .mtval2 g.mtval2
      longjmpException EX_LGPF
    else if type == .write && g.exception_num == EX_SGPF then
      if (← forceRaiseGpfRecord vaddr type) then return
      writeIntrTval EX_SPF vaddr
      writeTval .htval g.htval
      writeTval .mtval2 g.mtval2
      longjmpException EX_SGPF

theorem forceRaiseGpf_frame (vaddr : BitVec 64) (type : MemType) :
    Frame Hart.eraseWalk (forceRaiseGpf vaddr type) := by
  unfold forceRaiseGpf
  dsimp only
  have hr : Frame Hart.eraseWalk (forceRaiseGpfRecord vaddr type) := forceRecord_frame .gpf vaddr type
  have fault : ∀ ex ex' x y, Frame Hart.eraseWalk (do
      writeIntrTval ex vaddr; writeTval .htval x; writeTval .mtval2 y; longjmpException ex' :
        Exec Unit) := fun _ _ _ _ =>
    .bind (.writeIntrTval _ _) fun _ => .bind (.writeTval _ _) fun _ =>
      .bind (.writeTval _ _) fun _ => .longjmp _
  refine Frame.bind .get fun s => Frame.ite (Frame.ite ?_ (Frame.ite ?_ (Frame.ite ?_ (.pure _)))) (.pure _)
  · refine Frame.bind hr fun _ => Frame.ite (.pure _) (.bind (.pure _) fun _ => .bind .get fun _ => ?_)
    exact Frame.ite (.bind (.writeTval _ _) fun _ => .bind (.writeTval _ _) fun _ => .longjmp _)
      (.bind (.writeTval _ _) fun _ => .bind (.writeTval _ _) fun _ => .longjmp _)
  · exact Frame.bind hr fun _ => Frame.ite (.pure _) (.bind (.pure _) fun _ => fault _ _ _ _)
  · exact Frame.bind hr fun _ => Frame.ite (.pure _) (.bind (.pure _) fun _ => fault _ _ _ _)

/-- A forced store guest-page fault that the recorder lets through writes `vaddr` into the
register `INTR_TVAL_REG` selects for the store page fault. With that fault delegated and the
guest-page fault not, `raise_intr` takes the trap at M, where `mtval` is left as it was. -/
theorem forceRaiseGpf_store_tval (P : Platform) (epc : BitVec 64) {s : Hart} {vaddr : BitVec 64}
    (hg : (s.guided_exec && s.execution_guide.force_raise_exception) = true)
    (hex : s.execution_guide.exception_num = EX_SGPF)
    (hrec : outcome (forceRaiseGpfRecord vaddr .write s) = .ret false) :
    outcome (forceRaiseGpf vaddr .write s) = .raise (.exception EX_SGPF) ∧
      (final (forceRaiseGpf vaddr .write s)).tval (intrTvalReg s EX_SPF) = vaddr ∧
      (intrDelegS s EX_SPF = true → intrDelegS s EX_SGPF = false →
        (raiseIntr P EX_SGPF epc (final (forceRaiseGpf vaddr .write s))).2.level = .M ∧
          (raiseIntr P EX_SGPF epc (final (forceRaiseGpf vaddr .write s))).2.mtval = s.mtval) := by
  have hstep := forceRecord_step .gpf vaddr .write s
  rw [← forceRaiseGpfRecord] at hstep
  rw [hstep] at hrec
  rw [Outcome.ret.inj hrec] at hstep
  obtain ⟨s1, hr, hreg1, hm1⟩ : ∃ s1, forceRaiseGpfRecord vaddr .write s = .ok false s1 ∧
      intrTvalReg s1 EX_SPF = intrTvalReg s EX_SPF ∧ s1.mtval = s.mtval := ⟨_, hstep, rfl, rfl⟩
  have hrun : forceRaiseGpf vaddr .write s = .error (.exception EX_SGPF)
      (((s1.setTval (intrTvalReg s EX_SPF) vaddr).setTval .htval s.execution_guide.htval).setTval
        .mtval2 s.execution_guide.mtval2) := by
    simp only [forceRaiseGpf, run_bind, EStateM.bind, run_get, hg, if_true, hex]
    rw [if_neg (by decide), if_neg (by decide), if_pos (by decide), run_bind, EStateM.bind, hr]
    simp [EStateM.bind, hreg1]
  have hreg : intrTvalReg s EX_SPF ≠ .htval ∧ intrTvalReg s EX_SPF ≠ .mtval2 := by
    unfold intrTvalReg; split_ifs <;> decide
  have hf := forceRaiseGpf_frame vaddr .write s
  rw [hrun] at hf ⊢
  refine ⟨rfl, by simp [final, hreg.1.symm, hreg.2.symm], fun hS hG => ?_⟩
  -- the trap: `intr_deleg_S` of the guest-page fault is still clear, so it lands at M
  generalize hu : (((s1.setTval (intrTvalReg s EX_SPF) vaddr).setTval .htval
    s.execution_guide.htval).setTval .mtval2 s.execution_guide.mtval2) = u at hf ⊢
  simp only [final] at hf ⊢
  have hS' : intrDelegS u EX_SGPF = false := by rw [intrDelegS_of_eraseWalk hf, hG]
  rcases raiseIntr_gpf P (by decide : EX_SGPF ∈ gpfCauses) epc u (by simp [intrDelegVS, hS'])
    with ⟨h, -⟩ | ⟨-, hl, hm, -⟩
  · rw [hS'] at h; cases h
  · have hne : intrTvalReg s EX_SPF ≠ .mtval := by
      simp only [intrTvalReg, hS, if_true]; split <;> decide
    refine ⟨hl, hm.trans ?_⟩
    rw [← hu]
    show Hart.tval _ .mtval = _
    rw [Hart.tval_setTval, Hart.tval_setTval, Hart.tval_setTval]
    simp [hne, hm1, Hart.tval]

def sgpfGuidedHart : Hart :=
  { Hart.base with
    mode := MODE_S
    medeleg := 1 <<< 15
    guided_exec := true
    execution_guide := ⟨true, EX_SGPF, 0, 0, 0, 0, 0⟩ }

theorem forceRaiseGpf_store_tval_guided :
    (outcome (forceRaiseGpf 0x1000 .write sgpfGuidedHart) = .raise (.exception EX_SGPF) ∧
      (final (forceRaiseGpf 0x1000 .write sgpfGuidedHart)).tval (intrTvalReg sgpfGuidedHart EX_SPF) =
        0x1000 ∧
      (intrDelegS sgpfGuidedHart EX_SPF = true → intrDelegS sgpfGuidedHart EX_SGPF = false →
        (raiseIntr Platform.base EX_SGPF 0 (final (forceRaiseGpf 0x1000 .write sgpfGuidedHart))).2.level =
            .M ∧
          (raiseIntr Platform.base EX_SGPF 0
            (final (forceRaiseGpf 0x1000 .write sgpfGuidedHart))).2.mtval = sgpfGuidedHart.mtval)) ∧
      intrTvalReg sgpfGuidedHart EX_SPF = .stval ∧ intrDelegS sgpfGuidedHart EX_SPF = true ∧
      intrDelegS sgpfGuidedHart EX_SGPF = false :=
  ⟨forceRaiseGpf_store_tval Platform.base 0 rfl rfl rfl, by decide, by decide, by decide⟩

section Unguided

variable {s : Hart} (h : (s.guided_exec && s.execution_guide.force_raise_exception) = false)
  (vaddr : BitVec 64) (type : MemType)
include h

theorem forceRaisePf_unguided : forceRaisePf vaddr type s = .ok () s := by
  simp only [forceRaisePf, run_bind, EStateM.bind, run_get, h, Bool.false_eq_true, if_false]
  rfl

theorem forceRaiseGpf_unguided : forceRaiseGpf vaddr type s = .ok () s := by
  simp only [forceRaiseGpf, run_bind, EStateM.bind, run_get, h, Bool.false_eq_true, if_false]
  rfl

end Unguided

section TrapValues

variable {cs : List (BitVec 64)} (hcs : siteTvalCauses ⊆ cs) {q : Hart → Prop} (hq : WalkStable q)
include hcs hq

theorem checkPermission_tval (P : Platform) (pte : PTE) (ok : Bool) (vaddr : BitVec 64)
    (type : MemType) (virt : Bool) (mode : Nat) :
    Raises (tvalAt cs vaddr) q (checkPermission P pte ok vaddr type virt mode) := by
  unfold checkPermission
  refine Raises.bind_get fun s _ => Raises.bind (.assert _) (.assert _) hq fun _ => ?_
  exact .ite (.ite (.bind (.assert _) (.assert _) hq fun _ => .site (hcs (by decide)) (Raises.longjmp _))
      (.pure _))
    (.ite (.ite (.site (hcs (by split <;> decide)) (Raises.amo_longjmp _)) (.pure _))
      (.ite (.site (hcs (by decide)) (Raises.amo_longjmp _)) (.pure _)))

theorem pteRead_tval (P : Platform) (addr : BitVec 64) (type : MemType) (mode : Nat)
    (vaddr : BitVec 64) : Raises (tvalAt cs vaddr) q (pteRead P addr type mode vaddr) := by
  unfold pteRead
  dsimp only
  exact .ite (.site (hcs (by split <;> (try split) <;> decide)) (Raises.longjmp_then _ _))
    (.bind (.pure _) (.pure _) hq fun _ => .pure _)

end TrapValues

section UnguidedTval

variable {R : BitVec 64 → Hart → Prop} {q : Hart → Prop}
  (hg : ∀ s, q s → (s.guided_exec && s.execution_guide.force_raise_exception) = false)
include hg

theorem forceRaisePf_tval (vaddr : BitVec 64) (type : MemType) :
    Raises R q (forceRaisePf vaddr type) := fun s hs c h => by
  rw [forceRaisePf_unguided (hg s hs)] at h
  cases h

theorem forceRaiseGpf_tval (vaddr : BitVec 64) (type : MemType) :
    Raises R q (forceRaiseGpf vaddr type) := fun s hs c h => by
  rw [forceRaiseGpf_unguided (hg s hs)] at h
  cases h

end UnguidedTval

def raiseGuestExcep (gpaddr vaddr : BitVec 64) (type : MemType) : Exec α := do
  let s ← get
  let g := s.execution_guide
  if s.guided_exec && g.force_raise_exception &&
      (g.exception_num == EX_IPF || g.exception_num == EX_LPF || g.exception_num == EX_SPF) then
    forceRaisePf vaddr type
  if type == .ifetch then
    writeGpfTval EX_IGPF vaddr gpaddr
    longjmpException EX_IGPF
  else if type == .read then
    let ex := if (← get).amo then EX_SGPF else EX_LGPF
    writeGpfTval ex vaddr gpaddr
    longjmpException ex
  else
    writeGpfTval EX_SGPF vaddr gpaddr
    longjmpException EX_SGPF

theorem raiseGuestExcep_frame (gpaddr vaddr : BitVec 64) (type : MemType) :
    Frame Hart.eraseWalk (raiseGuestExcep gpaddr vaddr type : Exec α) := by
  unfold raiseGuestExcep
  dsimp only
  refine Frame.bind .get fun s =>
    Frame.ite (.bind (forceRaisePf_frame _ _) fun _ => ?_) (.bind (.pure _) fun _ => ?_) <;>
  exact Frame.ite (.bind (.writeGpfTval _ _ _) fun _ => .longjmp _)
    (.ite (.bind .get fun _ => .bind (.writeGpfTval _ _ _) fun _ => .longjmp _)
      (.bind (.writeGpfTval _ _ _) fun _ => .longjmp _))

theorem raiseGuestExcep_gpf {q : Hart → Prop} (hq : WalkStable q)
    (hg : ∀ s, q s → (s.guided_exec && s.execution_guide.force_raise_exception) = false)
    (gpaddr vaddr : BitVec 64) (type : MemType) :
    Raises (gpfAt gpaddr vaddr) q (raiseGuestExcep gpaddr vaddr type : Exec α) := by
  unfold raiseGuestExcep
  dsimp only
  refine Raises.bind_get fun s _ =>
    .ite (.bind (forceRaisePf_tval hg _ _) (forceRaisePf_frame _ _) hq fun _ => ?_) ?_ <;>
  exact .ite (.gpfPair (by decide))
    (.ite (.bind_get fun t _ => .gpfPair (by split <;> decide)) (.gpfPair (by decide)))

end NemuPriv
