import NemuPriv.State

namespace NemuPriv

/-- The privilege an access is checked with: `mstatus.MPP` for data accesses under
`mstatus.MPRV`, `cpu.mode` otherwise. -/
def effMode (s : Hart) (ifetch : Bool) : Nat :=
  if s.mstatus.mprv && !ifetch then s.mstatus.mpp.toNat else s.mode

def updateMmuStateInternal (s : Hart) (ifetch : Bool) : MmuState :=
  if effMode s ifetch < MODE_M then
    if s.satp.mode = 8 || s.satp.mode = 9 then .translate else .direct
  else .direct

def updateHMmuStateInternal (s : Hart) (ifetch : Bool) : MmuState :=
  if effMode s ifetch < MODE_M then
    if s.vsatp.mode = 8 || s.vsatp.mode = 9 || s.hgatp.mode = 8 || s.hgatp.mode = 9 then .translate
    else .direct
  else .direct

/-- `update_mmu_state`: recompute the three cached states; report whether the data state flipped. -/
def updateMmuState (s : Hart) : Hart × Bool :=
  let s' := { s with
    ifetch_mmu_state := updateMmuStateInternal s true
    data_mmu_state := updateMmuStateInternal s false
    h_mmu_state := updateHMmuStateInternal s false }
  (s', s'.data_mmu_state != s.data_mmu_state)

/-- The cache is fresh when each cached state is what `update_mmu_state` would compute now. -/
structure Fresh (s : Hart) : Prop where
  ifetch : s.ifetch_mmu_state = updateMmuStateInternal s true
  data : s.data_mmu_state = updateMmuStateInternal s false
  h : s.h_mmu_state = updateHMmuStateInternal s false

theorem updateMmuState_fresh (s : Hart) : Fresh (updateMmuState s).1 := ⟨rfl, rfl, rfl⟩

open Bits

def intrDelegS (s : Hart) (exceptionNO : BitVec 64) : Bool :=
  let deleg := if exceptionNO &&& INTR_BIT != 0 then s.mideleg else s.medeleg
  (deleg &&& (1 : BitVec 64) <<< (exceptionNO &&& 0xff) != 0) && decide (s.mode < MODE_M)

def intrDelegVS (s : Hart) (exceptionNO : BitVec 64) : Bool :=
  let delegS := intrDelegS s exceptionNO
  let deleg := if exceptionNO &&& INTR_BIT != 0 then s.hideleg else s.hedeleg
  let delegVS :=
    s.v && (deleg &&& (1 : BitVec 64) <<< (exceptionNO &&& 0xff) != 0) && decide (s.mode < MODE_M)
  delegS && delegVS

/-- The trap-value registers a fault site can write. -/
inductive Tval
  | mtval | stval | vstval | mtval2 | htval
  deriving DecidableEq, Repr

def Hart.tval (s : Hart) : Tval → BitVec 64
  | .mtval => s.mtval
  | .stval => s.stval
  | .vstval => s.vstval
  | .mtval2 => s.mtval2
  | .htval => s.htval

def Hart.setTval (s : Hart) (r : Tval) (x : BitVec 64) : Hart :=
  match r with
  | .mtval => { s with mtval := x }
  | .stval => { s with stval := x }
  | .vstval => { s with vstval := x }
  | .mtval2 => { s with mtval2 := x }
  | .htval => { s with htval := x }

@[simp] theorem Hart.tval_setTval (s : Hart) (r r' : Tval) (x : BitVec 64) :
    (s.setTval r x).tval r' = if r = r' then x else s.tval r' := by
  cases r <;> cases r' <;> rfl

/-- Modelled from the spec: `INTR_TVAL_REG(ex)` of `local-include/intr.h`: `vstval` for a trap
delegated to VS, `stval` for one delegated to HS, `mtval` otherwise. -/
def intrTvalReg (s : Hart) (ex : BitVec 64) : Tval :=
  if intrDelegVS s ex then .vstval else if intrDelegS s ex then .stval else .mtval

def writeTval (r : Tval) (x : BitVec 64) : Exec Unit := modify (·.setTval r x)

def writeIntrTval (ex vaddr : BitVec 64) : Exec Unit := do
  writeTval (intrTvalReg (← get) ex) vaddr

@[simp] theorem run_writeTval (r : Tval) (x : BitVec 64) (s : Hart) :
    writeTval r x s = .ok () (s.setTval r x) := rfl
@[simp] theorem run_writeIntrTval (ex x : BitVec 64) (s : Hart) :
    writeIntrTval ex x s = .ok () (s.setTval (intrTvalReg s ex) x) := rfl
@[simp] theorem setTval_amo (s : Hart) (r : Tval) (x : BitVec 64) : (s.setTval r x).amo = s.amo := by
  cases r <;> rfl

/-- The register the guest-access fault sites write with V set: `vstval` when `intr_deleg_S(ex)`,
`mtval` otherwise. -/
def guestTvalReg (s : Hart) (ex : BitVec 64) : Tval :=
  if intrDelegS s ex then .vstval else .mtval

def writeGpfTval (ex vaddr gpaddr : BitVec 64) : Exec Unit := do
  if intrDelegS (← get) ex then
    writeTval .stval vaddr
    writeTval .htval (gpaddr >>> 2)
  else
    writeTval .mtval vaddr
    writeTval .mtval2 (gpaddr >>> 2)

@[simp] theorem run_writeGpfTval (ex vaddr gpaddr : BitVec 64) (s : Hart) :
    writeGpfTval ex vaddr gpaddr s =
      .ok () (if intrDelegS s ex then (s.setTval .stval vaddr).setTval .htval (gpaddr >>> 2)
        else (s.setTval .mtval vaddr).setTval .mtval2 (gpaddr >>> 2)) := by
  simp only [writeGpfTval, run_bind, EStateM.bind, run_get, run_ite]
  split <;> rfl

def Hart.eraseTval (s : Hart) : Hart :=
  { s with mtval := 0, stval := 0, vstval := 0, mtval2 := 0, htval := 0 }

/-- The state without what a translation may change: the trap-value registers, `pt_level`,
`cpu.amo` and the recorders' counters. -/
def Hart.eraseWalk (s : Hart) : Hart :=
  { s.eraseTval with
    pt_level := 0
    amo := false
    last_addr := fun _ => 0
    force_count := fun _ => 0 }

/-- A view of the state that no write of a trap-value register changes. -/
class TvalBlind (view : Hart → β) : Prop where
  setTval : ∀ s r x, view (s.setTval r x) = view s

instance : TvalBlind Hart.eraseTval := ⟨fun _ r _ => by cases r <;> rfl⟩
instance : TvalBlind Hart.eraseWalk := ⟨fun _ r _ => by cases r <;> rfl⟩

/-- Every run of `x`, whether it returns or raises, leaves `view` of the state as it was. -/
def Frame (view : Hart → β) (x : Exec α) : Prop := ∀ s, view (final (x s)) = view s

/-- Every run of `x` changes at most the trap-value registers. -/
def TvalOnly (x : Exec α) : Prop := Frame Hart.eraseTval x

namespace Frame

variable {view : Hart → β}

theorem bind {x : Exec α} {f : α → Exec γ} (hx : Frame view x) (hf : ∀ a, Frame view (f a)) :
    Frame view (x >>= f) := by
  intro s
  have h := hx s
  simp only [run_bind, EStateM.bind]
  cases hs : x s with
  | ok a s' => rw [hs] at h; exact (hf a s').trans h
  | error e s' => rw [hs] at h; exact h

theorem ite {c : Prop} [Decidable c] {x y : Exec α} (hx : Frame view x) (hy : Frame view y) :
    Frame view (if c then x else y) := by
  split <;> assumption

theorem pure (a : α) : Frame view (Pure.pure a : Exec α) := fun _ => rfl

theorem get : Frame view (MonadState.get : Exec Hart) := fun _ => rfl

theorem longjmp (c : BitVec 64) : Frame view (longjmpException c : Exec α) := fun _ => rfl

theorem assert (c : Bool) : Frame view (NemuPriv.assert c) := fun _ => by cases c <;> rfl

theorem modify {f : Hart → Hart} (h : ∀ s, view (f s) = view s) :
    Frame view (MonadState.modifyGet fun s => (PUnit.unit, f s) : Exec PUnit) := h

variable [TvalBlind view]

theorem writeTval (r : Tval) (x : BitVec 64) : Frame view (NemuPriv.writeTval r x) :=
  fun s => TvalBlind.setTval s r x

theorem writeIntrTval (ex x : BitVec 64) : Frame view (NemuPriv.writeIntrTval ex x) :=
  fun s => TvalBlind.setTval s _ x

theorem writeGpfTval (ex vaddr gpaddr : BitVec 64) :
    Frame view (NemuPriv.writeGpfTval ex vaddr gpaddr) := by
  intro s
  simp only [run_writeGpfTval, final]
  split <;> simp only [TvalBlind.setTval]

end Frame

def getTrapPc (xtvec xcause : BitVec 64) : BitVec 64 :=
  let base := (xtvec >>> 2) <<< 2
  let mode := xtvec &&& 1
  let is_intr := xcause >>> 63 == 1
  let cause_no := xcause &&& 0xff
  if is_intr && mode == 1 then base + (cause_no <<< 2) else base

/-- The causes whose trap value the faulting site has already written. -/
def siteTvalCauses : List (BitVec 64) :=
  [EX_IPF, EX_LPF, EX_SPF, EX_LAM, EX_SAM, EX_IAF, EX_LAF, EX_SAF]

def gpfCauses : List (BitVec 64) := [EX_IGPF, EX_LGPF, EX_SGPF]

theorem intrTvalReg_setTval (s : Hart) (r : Tval) (x : BitVec 64) :
    intrTvalReg (s.setTval r x) = intrTvalReg s := by
  cases r <;> rfl

theorem intrDelegS_of_eraseWalk {s t : Hart} (h : t.eraseWalk = s.eraseWalk) :
    intrDelegS t = intrDelegS s := by
  have hm : t.mode = s.mode := (congrArg Hart.mode h :)
  have hme : t.medeleg = s.medeleg := (congrArg Hart.medeleg h :)
  have hmi : t.mideleg = s.mideleg := (congrArg Hart.mideleg h :)
  funext c
  simp only [intrDelegS, hm, hme, hmi]

theorem intrDelegVS_of_eraseWalk {s t : Hart} (h : t.eraseWalk = s.eraseWalk) :
    intrDelegVS t = intrDelegVS s := by
  have hv : t.v = s.v := (congrArg Hart.v h :)
  have hm : t.mode = s.mode := (congrArg Hart.mode h :)
  have hhe : t.hedeleg = s.hedeleg := (congrArg Hart.hedeleg h :)
  have hhi : t.hideleg = s.hideleg := (congrArg Hart.hideleg h :)
  funext c
  simp only [intrDelegVS, intrDelegS_of_eraseWalk h, hv, hm, hhe, hhi]

theorem intrTvalReg_of_eraseWalk {s t : Hart} (h : t.eraseWalk = s.eraseWalk) :
    intrTvalReg t = intrTvalReg s := by
  funext c
  simp only [intrTvalReg, intrDelegVS_of_eraseWalk h, intrDelegS_of_eraseWalk h]

/-- At this hart `guestTvalReg`, which the guest sites use with V set, agrees with
`INTR_TVAL_REG` for the three page faults. -/
def GuestPfReported (s : Hart) : Prop :=
  ∀ c ∈ [EX_IPF, EX_LPF, EX_SPF], guestTvalReg s c = intrTvalReg s c

theorem guestTvalReg_eq_intrTvalReg {s : Hart} {c : BitVec 64}
    (h : intrDelegS s c = true → intrDelegVS s c = true) : guestTvalReg s c = intrTvalReg s c := by
  cases hS : intrDelegS s c
  · have hVS : intrDelegVS s c = false := by simp [intrDelegVS, hS]
    simp [guestTvalReg, intrTvalReg, hS, hVS]
  · simp [guestTvalReg, intrTvalReg, hS, h hS]

/-- The guest-page faults are among `cs` and none is delegated to VS. -/
def GpfReported (cs : List (BitVec 64)) (s : Hart) : Prop :=
  ∀ c ∈ gpfCauses, c ∈ cs ∧ intrDelegVS s c = false

/-- The predicates on the state that no translation step changes. -/
def WalkStable (ok : Hart → Prop) : Prop := ∀ s s', s'.eraseWalk = s.eraseWalk → ok s → ok s'

theorem WalkStable.read {ok : Hart → Prop} (hq : WalkStable ok) (s : Hart) :
    WalkStable fun t => ok t ∧ t.eraseWalk = s.eraseWalk :=
  fun _ _ h ht => ⟨hq _ _ h ht.1, h.trans ht.2⟩

/-- Every exception `x` raises from a state that `ok` admits leaves, with its cause, a state
that `R` accepts. -/
def Raises (R : BitVec 64 → Hart → Prop) (ok : Hart → Prop) (x : Exec α) : Prop :=
  ∀ s, ok s → ∀ c, outcome (x s) = .raise (.exception c) → R c (final (x s))

/-- The cause is one of `cs` and `vaddr` is in the register `INTR_TVAL_REG` selects for it. -/
abbrev tvalAt (cs : List (BitVec 64)) (vaddr : BitVec 64) (c : BitVec 64) (t : Hart) : Prop :=
  c ∈ cs ∧ t.tval (intrTvalReg t c) = vaddr

/-- A guest-page fault with `vaddr` and `gpaddr >> 2` in the register pair `raise_guest_excep`
writes. -/
abbrev gpfAt (gpaddr vaddr : BitVec 64) (c : BitVec 64) (t : Hart) : Prop :=
  c ∈ gpfCauses ∧ t.tval (if intrDelegS t c then .stval else .mtval) = vaddr ∧
    t.tval (if intrDelegS t c then .htval else .mtval2) = gpaddr >>> 2

namespace Raises

variable {R : BitVec 64 → Hart → Prop} {ok : Hart → Prop}

theorem pure (a : α) : Raises R ok (Pure.pure a : Exec α) := fun _ _ _ h => by cases h

theorem ite {c : Prop} [Decidable c] {x y : Exec α} (hx : Raises R ok x) (hy : Raises R ok y) :
    Raises R ok (if c then x else y) := by
  split <;> assumption

theorem ite_dep {c : Prop} [Decidable c] {x y : Exec α} (hx : c → Raises R ok x)
    (hy : ¬c → Raises R ok y) : Raises R ok (if c then x else y) := by
  split
  · exact hx ‹_›
  · exact hy ‹_›

theorem assert (c : Bool) : Raises R ok (NemuPriv.assert c) := fun _ _ _ h => by
  cases c <;> cases h

theorem mono {ok' : Hart → Prop} {x : Exec α} (h : ∀ s, ok' s → ok s) (hx : Raises R ok x) :
    Raises R ok' x := fun s hs => hx s (h s hs)

theorem post {R' : BitVec 64 → Hart → Prop} {x : Exec α} (hx : Raises R ok x)
    (hfr : Frame Hart.eraseWalk x)
    (h : ∀ s, ok s → ∀ c t, t.eraseWalk = s.eraseWalk → R c t → R' c t) : Raises R' ok x :=
  fun s hs c hc => h s hs c _ (hfr s) (hx s hs c hc)

theorem bind_get {f : Hart → Exec α} (hf : ∀ t, ok t → Raises R ok (f t)) :
    Raises R ok (MonadState.get >>= f) := fun s hs => hf s hs s hs

theorem bind_read {f : Hart → Exec α}
    (hf : ∀ s, ok s → Raises R (fun t => ok t ∧ t.eraseWalk = s.eraseWalk) (f s)) :
    Raises R ok (MonadState.get >>= f) := fun s hs => hf s hs s ⟨hs, rfl⟩

theorem bind {x : Exec β} {f : β → Exec α} (hx : Raises R ok x) (hfr : Frame Hart.eraseWalk x)
    (hok : WalkStable ok) (hf : ∀ a, Raises R ok (f a)) : Raises R ok (x >>= f) := by
  intro s hs c h
  have hw := hfr s
  cases hx' : x s with
  | ok a s' =>
    rw [run_bind_ok f hx'] at h ⊢
    rw [hx'] at hw
    exact hf a s' (hok s s' hw hs) c h
  | error e s' =>
    rw [run_bind_error f hx'] at h ⊢
    have hxs := hx s hs c (by rw [hx']; simpa using h)
    rw [hx'] at hxs
    exact hxs

theorem modify_state (f : Hart → Hart) :
    Raises R ok (MonadState.modifyGet fun s => (PUnit.unit, f s) : Exec PUnit) :=
  fun _ _ _ h => by cases h

variable {cs : List (BitVec 64)} {vaddr : BitVec 64}

/-- A fault site: `vaddr` written into the register `INTR_TVAL_REG` selects for `c`, then a step
that raises `c`. -/
theorem write {c : BitVec 64} (hc : c ∈ cs) {w : Exec Unit} {x : Exec α}
    (hw : ∀ t, ok t → ∃ t', w t = .ok () t' ∧ t'.tval (intrTvalReg t c) = vaddr ∧
      intrTvalReg t' = intrTvalReg t)
    (hx : ∀ t, outcome (x t) = .raise (.exception c) ∧ (final (x t)).tval = t.tval ∧
      intrTvalReg (final (x t)) = intrTvalReg t) :
    Raises (tvalAt cs vaddr) ok (w >>= fun _ => x) := fun s hs c' h => by
  obtain ⟨t', hwt, hv, hr⟩ := hw s hs
  obtain ⟨ho, ht, hr'⟩ := hx t'
  rw [run_bind_ok _ hwt] at h ⊢
  rw [ho] at h
  cases h
  refine ⟨hc, ?_⟩
  rw [hr', ht, hr]
  exact hv

theorem site {c : BitVec 64} (hc : c ∈ cs) {x : Exec α}
    (hx : ∀ t, outcome (x t) = .raise (.exception c) ∧ (final (x t)).tval = t.tval ∧
      intrTvalReg (final (x t)) = intrTvalReg t) :
    Raises (tvalAt cs vaddr) ok (writeIntrTval c vaddr >>= fun _ => x) :=
  write hc (fun t _ => ⟨_, run_writeIntrTval c vaddr t, by simp, intrTvalReg_setTval _ _ _⟩) hx

theorem gpf {c g : BitVec 64} (hG : ∀ t, ok t → c ∈ cs ∧ intrDelegVS t c = false) {x : Exec α}
    (hx : ∀ t, outcome (x t) = .raise (.exception c) ∧ (final (x t)).tval = t.tval ∧
      intrTvalReg (final (x t)) = intrTvalReg t) :
    Raises (tvalAt cs vaddr) ok (writeGpfTval c vaddr g >>= fun _ => x) := fun s hs => by
  refine write (hG s hs).1 (fun t ht => ⟨_, run_writeGpfTval c vaddr g t, ?_, ?_⟩) hx s hs <;>
    cases hS : intrDelegS t c
  all_goals simp only [intrTvalReg, (hG t ht).2, hS, intrTvalReg_setTval, Hart.tval_setTval,
    Bool.false_eq_true, if_true, if_false, reduceCtorEq]

theorem gpfPair {c g : BitVec 64} (hc : c ∈ gpfCauses) :
    Raises (gpfAt g vaddr) ok (writeGpfTval c vaddr g >>= fun _ => (longjmpException c : Exec α)) :=
  fun t _ c' h => by
    rw [run_bind_ok _ (run_writeGpfTval c vaddr g t)] at h ⊢
    cases h
    have hS : ∀ (u : Hart) (r : Tval) (x : BitVec 64), intrDelegS (u.setTval r x) c = intrDelegS u c :=
      fun _ r _ => by cases r <;> rfl
    refine ⟨hc, ?_⟩
    cases h' : intrDelegS t c <;> simp [final, hS, h']

theorem guest {s : Hart} {c : BitVec 64} (hc : c ∈ cs) (hg : guestTvalReg s c = intrTvalReg s c)
    (hs : ∀ t, ok t → t.eraseWalk = s.eraseWalk) {x : Exec α}
    (hx : ∀ t, outcome (x t) = .raise (.exception c) ∧ (final (x t)).tval = t.tval ∧
      intrTvalReg (final (x t)) = intrTvalReg t) :
    Raises (tvalAt cs vaddr) ok (writeTval (guestTvalReg s c) vaddr >>= fun _ => x) :=
  write hc (fun t ht => ⟨_, run_writeTval _ vaddr t,
    by rw [hg, intrTvalReg_of_eraseWalk (hs t ht)]; simp, intrTvalReg_setTval _ _ _⟩) hx

theorem longjmp_then (c : BitVec 64) (f : β → Exec α) (t : Hart) :
    outcome ((longjmpException c >>= f) t) = .raise (.exception c) ∧
      (final ((longjmpException c >>= f) t)).tval = t.tval ∧
      intrTvalReg (final ((longjmpException c >>= f) t)) = intrTvalReg t := ⟨rfl, rfl, rfl⟩

theorem longjmp (c : BitVec 64) (t : Hart) :
    outcome ((longjmpException c : Exec α) t) = .raise (.exception c) ∧
      (final ((longjmpException c : Exec α) t)).tval = t.tval ∧
      intrTvalReg (final ((longjmpException c : Exec α) t)) = intrTvalReg t := ⟨rfl, rfl, rfl⟩

theorem amo_longjmp (c : BitVec 64) (t : Hart) :
    outcome ((do modify fun s => { s with amo := false }; longjmpException c : Exec α) t) =
        .raise (.exception c) ∧
      (final ((do modify fun s => { s with amo := false }; longjmpException c : Exec α) t)).tval =
        t.tval ∧
      intrTvalReg (final ((do modify fun s => { s with amo := false }; longjmpException c : Exec α) t)) =
        intrTvalReg t :=
  ⟨rfl, funext fun r => by cases r <;> rfl, rfl⟩

end Raises

def iiTval (P : Platform) (s : Hart) : BitVec 64 := if P.tvalExII then s.instr.setWidth 64 else 0

/-- `hstatus.GVA` and `mstatus.GVA`: whether the trap value is a guest virtual address. -/
def trapGva (s : Hart) (hld_st_temp : Bool) (NO : BitVec 64) : Bool :=
  let v := if s.mstatus.mprv then s.mstatus.mpv else s.v
  NO = EX_IGPF || NO = EX_LGPF || NO = EX_SGPF ||
    ((v || hld_st_temp) && ((NO ≤ 7 && NO ≠ 2) || NO = EX_IPF || NO = EX_LPF || NO = EX_SPF))

def trapToVS (P : Platform) (NO epc : BitVec 64) (s : Hart) : Hart :=
  let s := { s with
    vscause := if NO &&& INTR_BIT != 0 then ((NO &&& ~~~INTR_BIT) - 1) ||| INTR_BIT else NO
    vsepc := epc
    vsstatus := { s.vsstatus with
      spp := BitVec.ofNat 1 s.mode, spie := s.vsstatus.sie, sie := false } }
  let s :=
    if NO ∈ siteTvalCauses then s
    else if NO = EX_BP then { s with vstval := epc }
    else if NO = EX_II then { s with vstval := iiTval P s }
    else { s with vstval := 0 }
  { s with v := true, mode := MODE_S }

def trapToHS (P : Platform) (NO epc : BitVec 64) (hld_st_temp : Bool) (s : Hart) : Hart :=
  let s := { s with
    hstatus := { s.hstatus with
      gva := trapGva s hld_st_temp NO, spv := s.v,
      spvp := if s.v then BitVec.ofNat 1 s.mode else s.hstatus.spvp }
    v := false }
  let s := { s with
    scause := NO
    sepc := epc
    mstatus := { s.mstatus with
      spp := BitVec.ofNat 1 s.mode, spie := s.mstatus.sie, sie := false } }
  let s :=
    if NO ∈ siteTvalCauses then { s with htval := 0 }
    else if NO ∈ gpfCauses then s
    else if NO = EX_II || NO = EX_VI then { s with stval := iiTval P s, htval := 0 }
    else if NO = EX_BP then { s with htval := 0, stval := epc }
    else { s with stval := 0, htval := 0 }
  { s with htinst := 0, mode := MODE_S }

/-- The machine-level branch. Its `EX_BP` case leaves `mtval2` as it was: the source's
`mtval2->val = 0` there follows the `break`. -/
def trapToM (P : Platform) (NO epc : BitVec 64) (hld_st_temp : Bool) (s : Hart) : Hart :=
  let s := { s with
    mstatus := { s.mstatus with gva := trapGva s hld_st_temp NO, mpv := s.v }
    v := false }
  let s := { s with
    mcause := NO
    mepc := epc
    mstatus := { s.mstatus with
      mpp := BitVec.ofNat 2 s.mode, mpie := s.mstatus.mie, mie := false } }
  let s :=
    if NO ∈ siteTvalCauses then { s with mtval2 := 0 }
    else if NO ∈ gpfCauses then s
    else if NO = EX_II || NO = EX_VI then { s with mtval := iiTval P s, mtval2 := 0 }
    else if NO = EX_BP then { s with mtval := epc }
    else { s with mtval := 0, mtval2 := 0 }
  { s with mtinst := 0, mode := MODE_M }

/-- `raise_intr(NO, epc)`: take the trap at the level `intr_deleg_VS` and `intr_deleg_S`
select, recompute the MMU state, and return the trap vector. -/
def raiseIntr (P : Platform) (NO epc : BitVec 64) (s : Hart) : BitVec 64 × Hart :=
  let delegS := intrDelegS s NO
  let hld_st_temp := s.hld_st
  let s := { s with hld_st := false }
  if intrDelegVS s NO then
    let s := (updateMmuState (trapToVS P NO epc s)).1
    (getTrapPc s.vstvec s.vscause, s)
  else if delegS then
    let s := (updateMmuState (trapToHS P NO epc hld_st_temp s)).1
    (getTrapPc s.stvec s.scause, s)
  else
    let s := (updateMmuState (trapToM P NO epc hld_st_temp s)).1
    (getTrapPc s.mtvec s.mcause, s)

/-- What `raise_intr` can do: take the trap into VS, into HS or into M, as the delegation
registers select, with `hld_st` cleared first. -/
theorem raiseIntr_cases (P : Platform) (NO epc : BitVec 64) (s : Hart) :
    (intrDelegVS s NO = true ∧
        (raiseIntr P NO epc s).2 = (updateMmuState (trapToVS P NO epc { s with hld_st := false })).1) ∨
      (intrDelegVS s NO = false ∧ intrDelegS s NO = true ∧
        (raiseIntr P NO epc s).2 =
          (updateMmuState (trapToHS P NO epc s.hld_st { s with hld_st := false })).1) ∨
      (intrDelegVS s NO = false ∧ intrDelegS s NO = false ∧
        (raiseIntr P NO epc s).2 =
          (updateMmuState (trapToM P NO epc s.hld_st { s with hld_st := false })).1) := by
  unfold raiseIntr
  dsimp only
  split_ifs with hVS hS
  · exact .inl ⟨hVS, rfl⟩
  · exact .inr (.inl ⟨by simpa using hVS, hS, rfl⟩)
  · exact .inr (.inr ⟨by simpa using hVS, by simpa using hS, rfl⟩)

def IRQ_USIP : Nat := 0
def IRQ_SSIP : Nat := 1
def IRQ_VSSIP : Nat := 2
def IRQ_MSIP : Nat := 3
def IRQ_UTIP : Nat := 4
def IRQ_STIP : Nat := 5
def IRQ_VSTIP : Nat := 6
def IRQ_MTIP : Nat := 7
def IRQ_UEIP : Nat := 8
def IRQ_SEIP : Nat := 9
def IRQ_VSEIP : Nat := 10
def IRQ_MEIP : Nat := 11
def IRQ_SGEI : Nat := 12
def IRQ_LCOFI : Nat := 13

def priority (P : Platform) : List Nat :=
  [IRQ_MEIP, IRQ_MSIP, IRQ_MTIP, IRQ_SEIP, IRQ_SSIP, IRQ_STIP, IRQ_UEIP, IRQ_USIP, IRQ_UTIP,
    IRQ_VSEIP, IRQ_VSSIP, IRQ_VSTIP, IRQ_SGEI] ++ if P.sscofpmf then [IRQ_LCOFI] else []

def globalEnable (s : Hart) (irq : Nat) : Bool :=
  let deleg := s.mideleg &&& (1 : BitVec 64) <<< irq != 0
  let hdeleg := s.hideleg &&& (1 : BitVec 64) <<< irq != 0
  if hdeleg && deleg then
    (s.v && s.mode == MODE_S && s.vsstatus.sie) || (s.v && decide (s.mode < MODE_S))
  else if deleg then (s.mode == MODE_S && s.mstatus.sie) || decide (s.mode < MODE_S) || s.v
  else (s.mode == MODE_M && s.mstatus.mie) || decide (s.mode < MODE_M)

def isaQueryIntr (P : Platform) (s : Hart) : BitVec 64 :=
  let intr_vec := s.mie &&& s.mip
  if intr_vec = 0 then P.intrEmpty
  else
    match (priority P).find? (fun irq => intr_vec &&& (1 : BitVec 64) <<< irq != 0 && globalEnable s irq) with
    | some irq => BitVec.ofNat 64 irq ||| INTR_BIT
    | none => P.intrEmpty


theorem intr_cause_and_ff {i : Nat} (hi : i < 256) :
    (BitVec.ofNat 64 i ||| INTR_BIT) &&& 255#64 = BitVec.ofNat 64 i := by
  ext j
  have h255 : (255#64 : BitVec 64) = BitVec.ofNat 64 (2 ^ 8 - 1) := rfl
  rw [h255]
  simp only [BitVec.getLsbD_and, BitVec.getLsbD_or, getLsbD_INTR_BIT, BitVec.getLsbD_ofNat,
    Nat.testBit_two_pow_sub_one]
  by_cases hj : j.val < 8
  · have : j.val ≠ 63 := by omega
    simp [hj, this]
  · have : i.testBit j = false := Nat.testBit_lt_two_pow (by
      have : 2 ^ 8 ≤ 2 ^ j.val := Nat.pow_le_pow_right (by decide) (by omega)
      omega)
    simp [hj, this]

theorem intr_cause_and_intrBit (i : Nat) :
    ((BitVec.ofNat 64 i ||| INTR_BIT) &&& INTR_BIT != 0#64) = true := by
  have h : ((BitVec.ofNat 64 i ||| INTR_BIT) &&& INTR_BIT).getLsbD 63 = true := by
    simp [getLsbD_INTR_BIT]
  have hne : (BitVec.ofNat 64 i ||| INTR_BIT) &&& INTR_BIT ≠ 0#64 := fun h0 => by
    rw [h0] at h; simp at h
  simpa using hne

theorem intrDelegS_intr (s : Hart) {i : Nat} (hi : i < 64) :
    intrDelegS s (BitVec.ofNat 64 i ||| INTR_BIT) =
      (s.mideleg.getLsbD i && decide (s.mode < MODE_M)) := by
  have hi' : i < 2 ^ 64 := by omega
  simp only [intrDelegS, BitVec.ofNat_eq_ofNat, intr_cause_and_intrBit, if_true,
    intr_cause_and_ff (by omega : i < 256), BitVec.shiftLeft_eq', BitVec.toNat_ofNat,
    Nat.mod_eq_of_lt hi', and_one_shiftLeft_ne_zero _ hi]

theorem intrDelegVS_intr (s : Hart) {i : Nat} (hi : i < 64) :
    intrDelegVS s (BitVec.ofNat 64 i ||| INTR_BIT) =
      (s.mideleg.getLsbD i && decide (s.mode < MODE_M) &&
        (s.v && s.hideleg.getLsbD i && decide (s.mode < MODE_M))) := by
  have hi' : i < 2 ^ 64 := by omega
  simp only [intrDelegVS, intrDelegS_intr s hi, BitVec.ofNat_eq_ofNat, intr_cause_and_intrBit,
    if_true, intr_cause_and_ff (by omega : i < 256), BitVec.shiftLeft_eq', BitVec.toNat_ofNat,
    Nat.mod_eq_of_lt hi', and_one_shiftLeft_ne_zero _ hi]

theorem exc_cause_and_intrBit {i : Nat} (hi : i < 63) :
    (BitVec.ofNat 64 i &&& INTR_BIT != 0#64) = false := by
  have h : BitVec.ofNat 64 i &&& INTR_BIT = 0#64 := by
    ext j
    simp only [BitVec.getLsbD_and, getLsbD_INTR_BIT, BitVec.getLsbD_ofNat, BitVec.getLsbD_zero]
    by_cases hj : (j : Nat) = 63
    · simp [hj, Nat.testBit_lt_two_pow (by omega : i < 2 ^ 63)]
    · simp [hj]
  simp [h]

theorem exc_cause_and_ff {i : Nat} (hi : i < 256) : BitVec.ofNat 64 i &&& 255#64 = BitVec.ofNat 64 i := by
  ext j
  have h255 : (255#64 : BitVec 64) = BitVec.ofNat 64 (2 ^ 8 - 1) := rfl
  rw [h255]
  simp only [BitVec.getLsbD_and, BitVec.getLsbD_ofNat, Nat.testBit_two_pow_sub_one]
  by_cases hj : (j : Nat) < 8
  · simp [hj]
  · have hlt : i < 2 ^ (j : Nat) :=
      Nat.lt_of_lt_of_le (hi : i < 2 ^ 8) (Nat.pow_le_pow_right (by decide : 2 > 0) (show 8 ≤ (j : Nat) by omega))
    simp [hj, Nat.testBit_lt_two_pow hlt]

theorem intrDelegS_exc (s : Hart) {i : Nat} (hi : i < 63) :
    intrDelegS s (BitVec.ofNat 64 i) = (s.medeleg.getLsbD i && decide (s.mode < MODE_M)) := by
  have hi' : i < 2 ^ 64 := by omega
  simp only [intrDelegS, BitVec.ofNat_eq_ofNat, exc_cause_and_intrBit hi, Bool.false_eq_true, if_false,
    exc_cause_and_ff (by omega : i < 256), BitVec.shiftLeft_eq', BitVec.toNat_ofNat, Nat.mod_eq_of_lt hi',
    and_one_shiftLeft_ne_zero _ (by omega : i < 64)]

theorem intrDelegVS_exc (s : Hart) {i : Nat} (hi : i < 63) :
    intrDelegVS s (BitVec.ofNat 64 i) =
      (s.medeleg.getLsbD i && decide (s.mode < MODE_M) &&
        (s.v && s.hedeleg.getLsbD i && decide (s.mode < MODE_M))) := by
  have hi' : i < 2 ^ 64 := by omega
  simp only [intrDelegVS, intrDelegS_exc s hi, BitVec.ofNat_eq_ofNat, exc_cause_and_intrBit hi,
    Bool.false_eq_true, if_false,
    exc_cause_and_ff (by omega : i < 256), BitVec.shiftLeft_eq', BitVec.toNat_ofNat, Nat.mod_eq_of_lt hi',
    and_one_shiftLeft_ne_zero _ (by omega : i < 64)]

/-- The privilege levels with the hypervisor extension. -/
inductive Level
  | M | HS | VS | VU | U
  deriving DecidableEq, Repr

def Hart.level (s : Hart) : Level :=
  if s.mode = MODE_M then .M
  else if s.mode = MODE_S then (if s.v then .VS else .HS)
  else if s.v then .VU else .U

/-- `a.AtLeast b`: M is above HS, HS above VS and U, VS above VU. -/
def Level.AtLeast : Level → Level → Bool
  | .M, _ => true
  | .HS, .HS | .HS, .VS | .HS, .VU | .HS, .U => true
  | .VS, .VS | .VS, .VU => true
  | .VU, .VU | .U, .U => true
  | _, _ => false

theorem Level.atLeast_refl (l : Level) : l.AtLeast l = true := by
  cases l <;> rfl

theorem Level.atLeast_trans {a b c : Level} (hab : a.AtLeast b = true) (hbc : b.AtLeast c = true) :
    a.AtLeast c = true := by
  revert hab hbc
  cases a <;> cases b <;> cases c <;> decide

def Level.globalIE (s : Hart) : Level → Bool
  | .M => s.mstatus.mie
  | .HS => s.mstatus.sie
  | .VS => s.vsstatus.sie
  | .VU | .U => false

@[simp] theorem updateMmuState_mode (s : Hart) : (updateMmuState s).1.mode = s.mode := rfl
@[simp] theorem updateMmuState_v (s : Hart) : (updateMmuState s).1.v = s.v := rfl
@[simp] theorem updateMmuState_level (s : Hart) : (updateMmuState s).1.level = s.level := rfl
@[simp] theorem updateMmuState_mstatus (s : Hart) : (updateMmuState s).1.mstatus = s.mstatus := rfl
@[simp] theorem updateMmuState_vsstatus (s : Hart) : (updateMmuState s).1.vsstatus = s.vsstatus := rfl
@[simp] theorem updateMmuState_hstatus (s : Hart) : (updateMmuState s).1.hstatus = s.hstatus := rfl
@[simp] theorem updateMmuState_mepc (s : Hart) : (updateMmuState s).1.mepc = s.mepc := rfl
@[simp] theorem updateMmuState_sepc (s : Hart) : (updateMmuState s).1.sepc = s.sepc := rfl
@[simp] theorem updateMmuState_vsepc (s : Hart) : (updateMmuState s).1.vsepc = s.vsepc := rfl

@[simp] theorem trapToVS_mode (P : Platform) (NO epc : BitVec 64) (s : Hart) :
    (trapToVS P NO epc s).mode = MODE_S := rfl
@[simp] theorem trapToVS_v (P : Platform) (NO epc : BitVec 64) (s : Hart) :
    (trapToVS P NO epc s).v = true := rfl
@[simp] theorem trapToHS_mode (P : Platform) (NO epc : BitVec 64) (t : Bool) (s : Hart) :
    (trapToHS P NO epc t s).mode = MODE_S := rfl
@[simp] theorem trapToM_mode (P : Platform) (NO epc : BitVec 64) (t : Bool) (s : Hart) :
    (trapToM P NO epc t s).mode = MODE_M := rfl

theorem trapToVS_mstatus (P : Platform) (NO epc : BitVec 64) (s : Hart) :
    (trapToVS P NO epc s).mstatus = s.mstatus := by
  simp only [trapToVS, apply_ite Hart.mstatus, ite_self]

theorem trapToHS_v (P : Platform) (NO epc : BitVec 64) (t : Bool) (s : Hart) :
    (trapToHS P NO epc t s).v = false := by
  simp only [trapToHS, apply_ite Hart.v, ite_self]

theorem trapToHS_mpp (P : Platform) (NO epc : BitVec 64) (t : Bool) (s : Hart) :
    (trapToHS P NO epc t s).mstatus.mpp = s.mstatus.mpp := by
  simp only [trapToHS, apply_ite Hart.mstatus, ite_self]

theorem trapToM_v (P : Platform) (NO epc : BitVec 64) (t : Bool) (s : Hart) :
    (trapToM P NO epc t s).v = false := by
  simp only [trapToM, apply_ite Hart.v, ite_self]

theorem trapToM_mpp (P : Platform) (NO epc : BitVec 64) (t : Bool) (s : Hart) :
    (trapToM P NO epc t s).mstatus.mpp = BitVec.ofNat 2 s.mode := by
  simp only [trapToM, apply_ite Hart.mstatus, ite_self]

@[simp] theorem trapToVS_vsepc (P : Platform) (NO epc : BitVec 64) (s : Hart) :
    (trapToVS P NO epc s).vsepc = epc := by
  simp only [trapToVS, apply_ite Hart.vsepc, ite_self]

theorem trapToVS_vsstatus (P : Platform) (NO epc : BitVec 64) (s : Hart) :
    (trapToVS P NO epc s).vsstatus =
      { s.vsstatus with spp := BitVec.ofNat 1 s.mode, spie := s.vsstatus.sie, sie := false } := by
  simp only [trapToVS, apply_ite Hart.vsstatus, ite_self]

@[simp] theorem trapToHS_sepc (P : Platform) (NO epc : BitVec 64) (t : Bool) (s : Hart) :
    (trapToHS P NO epc t s).sepc = epc := by
  simp only [trapToHS, apply_ite Hart.sepc, ite_self]

theorem trapToHS_mstatus (P : Platform) (NO epc : BitVec 64) (t : Bool) (s : Hart) :
    (trapToHS P NO epc t s).mstatus =
      { s.mstatus with spp := BitVec.ofNat 1 s.mode, spie := s.mstatus.sie, sie := false } := by
  simp only [trapToHS, apply_ite Hart.mstatus, ite_self]

theorem trapToHS_hstatus (P : Platform) (NO epc : BitVec 64) (t : Bool) (s : Hart) :
    (trapToHS P NO epc t s).hstatus =
      { s.hstatus with
        gva := trapGva s t NO, spv := s.v,
        spvp := if s.v then BitVec.ofNat 1 s.mode else s.hstatus.spvp } := by
  simp only [trapToHS, apply_ite Hart.hstatus, ite_self]

@[simp] theorem trapToM_mepc (P : Platform) (NO epc : BitVec 64) (t : Bool) (s : Hart) :
    (trapToM P NO epc t s).mepc = epc := by
  simp only [trapToM, apply_ite Hart.mepc, ite_self]

theorem trapToM_mstatus (P : Platform) (NO epc : BitVec 64) (t : Bool) (s : Hart) :
    (trapToM P NO epc t s).mstatus =
      { s.mstatus with
        gva := trapGva s t NO, mpv := s.v, mpp := BitVec.ofNat 2 s.mode, mpie := s.mstatus.mie,
        mie := false } := by
  simp only [trapToM, apply_ite Hart.mstatus, ite_self]

theorem trapToVS_level (P : Platform) (NO epc : BitVec 64) (s : Hart) :
    (trapToVS P NO epc s).level = .VS := by
  have hm : (trapToVS P NO epc s).mode = MODE_S := rfl
  have hv : (trapToVS P NO epc s).v = true := rfl
  rw [Hart.level, hm, hv]
  rfl

theorem trapToHS_level (P : Platform) (NO epc : BitVec 64) (t : Bool) (s : Hart) :
    (trapToHS P NO epc t s).level = .HS := by
  have hm : (trapToHS P NO epc t s).mode = MODE_S := rfl
  rw [Hart.level, hm, trapToHS_v]
  rfl

theorem trapToM_level (P : Platform) (NO epc : BitVec 64) (t : Bool) (s : Hart) :
    (trapToM P NO epc t s).level = .M := by
  have hm : (trapToM P NO epc t s).mode = MODE_M := rfl
  rw [Hart.level, if_pos hm]

theorem raiseIntr_level (P : Platform) (NO epc : BitVec 64) (s : Hart) :
    (raiseIntr P NO epc s).2.level =
      if intrDelegVS s NO then .VS else if intrDelegS s NO then .HS else .M := by
  have hVS : intrDelegVS { s with hld_st := false } NO = intrDelegVS s NO := rfl
  unfold raiseIntr
  dsimp only
  rw [hVS]
  split_ifs <;> simp only [updateMmuState_level, trapToVS_level, trapToHS_level, trapToM_level]

theorem intrDelegS_mode {s : Hart} {NO : BitVec 64} (h : intrDelegS s NO = true) :
    s.mode < MODE_M := by
  unfold intrDelegS at h
  simp only [Bool.and_eq_true, decide_eq_true_eq] at h
  exact h.2

theorem intrDelegVS_v {s : Hart} {NO : BitVec 64} (h : intrDelegVS s NO = true) :
    s.v = true ∧ s.mode < MODE_M := by
  unfold intrDelegVS at h
  simp only [Bool.and_eq_true, decide_eq_true_eq] at h
  exact ⟨h.2.1.1, h.2.2⟩

/-- A trap lands at a level at least as privileged as every level the hart dominated. -/
theorem raiseIntr_level_dominates (P : Platform) (NO epc : BitVec 64) {s : Hart} {l : Level}
    (h : s.level.AtLeast l = true) : (raiseIntr P NO epc s).2.level.AtLeast l = true := by
  refine Level.atLeast_trans ?_ h
  rw [raiseIntr_level]
  split_ifs with hVS hS
  · obtain ⟨hv, hm⟩ := intrDelegVS_v hVS
    have : s.mode ≠ MODE_M := by unfold MODE_M at *; omega
    simp only [Hart.level, this, hv, if_false, if_true]
    split <;> rfl
  · have : s.mode ≠ MODE_M := by have := intrDelegS_mode hS; unfold MODE_M at *; omega
    simp only [Hart.level, this, if_false]
    split <;> split <;> rfl
  · rfl

/-- A trap, whatever its cause, is never taken at a level less privileged than the current one. -/
theorem raiseIntr_level_atLeast (P : Platform) (NO epc : BitVec 64) (s : Hart) :
    (raiseIntr P NO epc s).2.level.AtLeast s.level = true :=
  raiseIntr_level_dominates P NO epc (Level.atLeast_refl _)

/-- Modelled from the spec: the trap-value register of a trap level. -/
def Level.tvalReg : Level → Tval
  | .M => .mtval
  | .HS => .stval
  | _ => .vstval

@[simp] theorem updateMmuState_tval (s : Hart) (r : Tval) : (updateMmuState s).1.tval r = s.tval r := by
  cases r <;> rfl

section SiteCauses

variable (P : Platform) {NO : BitVec 64} (epc : BitVec 64) (s : Hart)

theorem trapToVS_vstval (hNO : NO ∈ siteTvalCauses) : (trapToVS P NO epc s).vstval = s.vstval := by
  unfold trapToVS
  dsimp only
  rw [if_pos hNO]

theorem trapToHS_stval (hNO : NO ∈ siteTvalCauses ∨ NO ∈ gpfCauses) (t : Bool) :
    (trapToHS P NO epc t s).stval = s.stval := by
  unfold trapToHS
  dsimp only
  by_cases h : NO ∈ siteTvalCauses
  · rw [if_pos h]
  · rw [if_neg h, if_pos (hNO.resolve_left h)]

theorem trapToM_mtval (hNO : NO ∈ siteTvalCauses ∨ NO ∈ gpfCauses) (t : Bool) :
    (trapToM P NO epc t s).mtval = s.mtval := by
  unfold trapToM
  dsimp only
  by_cases h : NO ∈ siteTvalCauses
  · rw [if_pos h]
  · rw [if_neg h, if_pos (hNO.resolve_left h)]

/-- For a cause whose trap value the fault site wrote, or a guest-page fault not delegated to
VS, `raise_intr` keeps the register `INTR_TVAL_REG` chose, the one of the level it traps to. -/
theorem raiseIntr_siteTval (hNO : NO ∈ siteTvalCauses ∨ NO ∈ gpfCauses ∧ intrDelegVS s NO = false) :
    (raiseIntr P NO epc s).2.tval (raiseIntr P NO epc s).2.level.tvalReg = s.tval (intrTvalReg s NO) := by
  have hHM : NO ∈ siteTvalCauses ∨ NO ∈ gpfCauses := hNO.imp_right And.left
  rcases raiseIntr_cases P NO epc s with ⟨h1, h⟩ | ⟨h1, h2, h⟩ | ⟨h1, h2, h⟩ <;>
    rw [h, updateMmuState_tval, updateMmuState_level]
  · rw [trapToVS_level, intrTvalReg, if_pos h1]
    exact trapToVS_vstval P epc _ (hNO.resolve_right fun h' => by rw [h'.2] at h1; cases h1)
  · rw [trapToHS_level, intrTvalReg, if_neg (by simp [h1]), if_pos h2]
    exact trapToHS_stval P epc _ hHM _
  · rw [trapToM_level, intrTvalReg, if_neg (by simp [h1]), if_neg (by simp [h2])]
    exact trapToM_mtval P epc _ hHM _

end SiteCauses

section GpfCauses

variable (P : Platform) {NO : BitVec 64} (hNO : NO ∈ gpfCauses) (epc : BitVec 64) (s : Hart)
include hNO

theorem trapGva_gpf (t : Bool) : trapGva s t NO = true := by
  simp only [gpfCauses, List.mem_cons, List.mem_singleton, List.not_mem_nil, or_false] at hNO
  rcases hNO with rfl | rfl | rfl <;> simp [trapGva]

theorem not_mem_siteTvalCauses_of_gpf : NO ∉ siteTvalCauses := by
  simp only [gpfCauses, List.mem_cons, List.mem_singleton, List.not_mem_nil, or_false] at hNO
  rcases hNO with rfl | rfl | rfl <;> decide

theorem trapToHS_htval_gpf (t : Bool) : (trapToHS P NO epc t s).htval = s.htval := by
  unfold trapToHS
  dsimp only
  rw [if_neg (not_mem_siteTvalCauses_of_gpf hNO), if_pos hNO]

theorem trapToM_mtval2_gpf (t : Bool) : (trapToM P NO epc t s).mtval2 = s.mtval2 := by
  unfold trapToM
  dsimp only
  rw [if_neg (not_mem_siteTvalCauses_of_gpf hNO), if_pos hNO]

/-- A guest-page fault that is not delegated to VS is taken in HS when `intr_deleg_S` holds and
in M otherwise; that level's handler finds both trap values the fault site wrote and GVA set. -/
theorem raiseIntr_gpf (hvs : intrDelegVS s NO = false) :
    (intrDelegS s NO = true ∧ (raiseIntr P NO epc s).2.level = .HS ∧
        (raiseIntr P NO epc s).2.stval = s.stval ∧ (raiseIntr P NO epc s).2.htval = s.htval ∧
        (raiseIntr P NO epc s).2.hstatus.gva = true) ∨
      (intrDelegS s NO = false ∧ (raiseIntr P NO epc s).2.level = .M ∧
        (raiseIntr P NO epc s).2.mtval = s.mtval ∧ (raiseIntr P NO epc s).2.mtval2 = s.mtval2 ∧
        (raiseIntr P NO epc s).2.mstatus.gva = true) := by
  rcases raiseIntr_cases P NO epc s with ⟨h1, -⟩ | ⟨-, h2, h⟩ | ⟨-, h2, h⟩
  · rw [hvs] at h1
    cases h1
  · refine .inl ⟨h2, ?_⟩
    rw [h, updateMmuState_level, trapToHS_level, updateMmuState_hstatus, trapToHS_hstatus]
    exact ⟨rfl, (updateMmuState_tval _ .stval).trans (trapToHS_stval P epc _ (.inr hNO) _),
      (updateMmuState_tval _ .htval).trans (trapToHS_htval_gpf P hNO epc _ _), trapGva_gpf hNO _ _⟩
  · refine .inr ⟨h2, ?_⟩
    rw [h, updateMmuState_level, trapToM_level, updateMmuState_mstatus, trapToM_mstatus]
    exact ⟨rfl, (updateMmuState_tval _ .mtval).trans (trapToM_mtval P epc _ (.inr hNO) _),
      (updateMmuState_tval _ .mtval2).trans (trapToM_mtval2_gpf P hNO epc _ _), trapGva_gpf hNO _ _⟩

end GpfCauses


theorem raiseIntr_fresh (P : Platform) (NO epc : BitVec 64) (s : Hart) :
    Fresh (raiseIntr P NO epc s).2 := by
  unfold raiseIntr
  dsimp only
  split_ifs <;> exact updateMmuState_fresh _

theorem isaQueryIntr_found (P : Platform) (s : Hart) {i : Nat} (hi : i < 64)
    (hq : isaQueryIntr P s = BitVec.ofNat 64 i ||| INTR_BIT) :
    (s.mie &&& s.mip).getLsbD i ∧ globalEnable s i := by
  unfold isaQueryIntr at hq
  dsimp only at hq
  split_ifs at hq
  · exact absurd hq (P.intrEmpty_ne i hi)
  · split at hq
    · rename_i irq hf
      have hirq : irq < 64 := by
        have hmem := List.mem_of_find?_eq_some hf
        simp only [priority, List.mem_append, List.mem_cons, List.mem_singleton] at hmem
        split at hmem <;> simp [IRQ_USIP, IRQ_SSIP, IRQ_VSSIP, IRQ_MSIP, IRQ_UTIP, IRQ_STIP,
          IRQ_VSTIP, IRQ_MTIP, IRQ_UEIP, IRQ_SEIP, IRQ_VSEIP, IRQ_MEIP, IRQ_SGEI, IRQ_LCOFI] at hmem <;>
          omega
      have hlow := congrArg (· &&& 255#64) hq
      simp only [intr_cause_and_ff (by omega : irq < 256), intr_cause_and_ff (by omega : i < 256)]
        at hlow
      have hirq_eq : irq = i := by
        have := congrArg BitVec.toNat hlow
        simp only [BitVec.toNat_ofNat] at this
        rwa [Nat.mod_eq_of_lt (by omega), Nat.mod_eq_of_lt (by omega)] at this
      subst hirq_eq
      have hp := List.find?_some hf
      simp only [Bool.and_eq_true, BitVec.ofNat_eq_ofNat] at hp
      exact ⟨by rw [← and_one_shiftLeft_ne_zero _ hi]; exact hp.1, hp.2⟩
    · exact absurd hq (P.intrEmpty_ne i hi)

/-- An interrupt `isa_query_intr` selects is pending and enabled, and `raise_intr` takes it at a
level at least as privileged as the current one. -/
theorem query_intr_taken_above (P : Platform) (s : Hart) (epc : BitVec 64) {i : Nat} (hi : i < 64)
    (hmode : s.mode = MODE_U ∨ s.mode = MODE_S ∨ s.mode = MODE_M)
    (hv : s.v = true → s.mode < MODE_M)
    (hq : isaQueryIntr P s = BitVec.ofNat 64 i ||| INTR_BIT) :
    s.mie.getLsbD i = true ∧ s.mip.getLsbD i = true ∧
      (raiseIntr P (BitVec.ofNat 64 i ||| INTR_BIT) epc s).2.level.AtLeast s.level = true ∧
      ((raiseIntr P (BitVec.ofNat 64 i ||| INTR_BIT) epc s).2.level = s.level →
        s.level.globalIE s = true) := by
  obtain ⟨hpend, hen⟩ := isaQueryIntr_found P s hi hq
  rw [BitVec.getLsbD_and, Bool.and_eq_true] at hpend
  refine ⟨hpend.1, hpend.2, raiseIntr_level_dominates P _ epc (Level.atLeast_refl _), ?_⟩
  rw [raiseIntr_level, intrDelegVS_intr s hi, intrDelegS_intr s hi]
  simp only [globalEnable, BitVec.ofNat_eq_ofNat, and_one_shiftLeft_ne_zero _ hi] at hen
  rcases hmode with h | h | h <;>
    cases hm : s.mideleg.getLsbD i <;> cases hh : s.hideleg.getLsbD i <;> cases hvv : s.v <;>
    simp_all [Hart.level, Level.AtLeast, Level.globalIE, MODE_U, MODE_S, MODE_M]

def stipHart : Hart :=
  { Hart.base with mode := MODE_U, mideleg := 1 <<< 5, mie := 1 <<< 5, mip := 1 <<< 5 }

theorem query_intr_taken_above_stip :
    isaQueryIntr Platform.base stipHart = BitVec.ofNat 64 IRQ_STIP ||| INTR_BIT ∧
      (raiseIntr Platform.base (BitVec.ofNat 64 IRQ_STIP ||| INTR_BIT) 0 stipHart).2.level = .HS ∧
      (raiseIntr Platform.base (BitVec.ofNat 64 IRQ_STIP ||| INTR_BIT) 0 stipHart).2.level.AtLeast
        stipHart.level = true :=
  ⟨by decide, by decide,
    (query_intr_taken_above Platform.base stipHart 0 (by decide) (by decide) (by decide)
      (by decide)).2.2.1⟩

end NemuPriv
