import NemuPriv.Refinement

namespace NemuPriv

def isaMisalignDataAddrCheck (P : Platform) (vaddr : BitVec 64) (len : Nat) (type : MemType) :
    Exec Unit := do
  if vaddr &&& (BitVec.ofNat 64 len - 1) != 0 then
    if P.acSoft then
      let ex := if (← get).amo || type == .write then EX_SAM else EX_LAM
      writeIntrTval ex vaddr
      longjmpException ex

/-- `va_msbs_ok` and `gpf` as `isa_mmu_check` leaves them before it raises. Its `Assert(0)` is
unreachable: `vm_enable` implies `enable_39 || enable_48`. -/
def mmuCheckAddr (s : Hart) (is_ifetch : Bool) (vaddr : BitVec 64) : Bool × Bool :=
  let enable_39 := s.satp.mode == 8 || (s.v && (s.vsatp.mode == 8 || s.hgatp.mode == 8))
  let enable_48 := s.satp.mode == 9 || (s.v && (s.vsatp.mode == 9 || s.hgatp.mode == 9))
  let vm_enable := decide (effMode s is_ifetch < MODE_M) && (enable_39 || enable_48)
  let va_msbs_ok :=
    if vm_enable then
      if enable_48 then
        let va_msbs := vaddr >>> 47
        va_msbs == ((1 : BitVec 64) <<< (63 - 47 + 1)) - 1 || va_msbs == 0
      else
        let va_msbs := vaddr >>> 38
        va_msbs == ((1 : BitVec 64) <<< (63 - 38 + 1)) - 1 || va_msbs == 0
    else true
  if s.v && s.vsatp.mode == 0 then
    if enable_48 then
      if vaddr &&& ~~~(((1 : BitVec 64) <<< 50) - 1) == 0 then (true, false) else (va_msbs_ok, true)
    else if enable_39 then
      if vaddr &&& ~~~(((1 : BitVec 64) <<< 41) - 1) == 0 then (true, false) else (va_msbs_ok, true)
    else (va_msbs_ok, false)
  else (va_msbs_ok, false)

def mmuCheckRaise (s : Hart) (gpf : Bool) (gex pex vaddr : BitVec 64) : Exec α := do
  if s.hld_st || gpf then
    writeGpfTval gex vaddr vaddr
    longjmpException gex
  else if s.v then
    writeTval (guestTvalReg s pex) vaddr
    longjmpException pex
  else
    writeIntrTval pex vaddr
    longjmpException pex

/-- The cached state `isa_mmu_check` ends with: `h_mmu_state` for a guest fetch and for HLV/HSV,
`ifetch_mmu_state` for other fetches, `data_mmu_state` for other data accesses. -/
def cachedMmuState (s : Hart) (is_ifetch : Bool) : MmuState :=
  if s.v && is_ifetch then s.h_mmu_state
  else if is_ifetch then s.ifetch_mmu_state
  else if s.hld_st then s.h_mmu_state
  else s.data_mmu_state

def mmuCheckRange (vaddr : BitVec 64) (type : MemType) : Exec MmuState := do
  let is_ifetch := type == .ifetch
  let s ← get
  let (va_msbs_ok, gpf) := mmuCheckAddr s is_ifetch vaddr
  if !va_msbs_ok then
    if is_ifetch then mmuCheckRaise s gpf EX_IGPF EX_IPF vaddr
    else if type == .read then
      mmuCheckRaise s gpf (if s.amo then EX_SGPF else EX_LGPF) (if s.amo then EX_SPF else EX_LPF) vaddr
    else mmuCheckRaise s gpf EX_SGPF EX_SPF vaddr
  else return cachedMmuState s is_ifetch

def isaMmuCheck (P : Platform) (vaddr : BitVec 64) (len : Nat) (type : MemType) :
    Exec MmuState := do
  if type != .ifetch then isaMisalignDataAddrCheck P vaddr len type
  mmuCheckRange vaddr type

theorem mmuCheckRaise_raise (s : Hart) (gpf : Bool) (gex pex vaddr : BitVec 64) (s₀ : Hart) :
    outcome ((mmuCheckRaise s gpf gex pex vaddr : Exec α) s₀) =
      .raise (.exception (if s.hld_st || gpf then gex else pex)) := by
  unfold mmuCheckRaise
  split_ifs <;> simp [EStateM.bind, *]

def mmuCheckCause (s : Hart) (gpf : Bool) (type : MemType) : BitVec 64 :=
  if type == .ifetch then (if s.hld_st || gpf then EX_IGPF else EX_IPF)
  else if type == .read then
    if s.hld_st || gpf then (if s.amo then EX_SGPF else EX_LGPF) else (if s.amo then EX_SPF else EX_LPF)
  else if s.hld_st || gpf then EX_SGPF else EX_SPF

theorem mmuCheckRange_raise {s : Hart} {vaddr : BitVec 64} {type : MemType} {gpf : Bool}
    (h : mmuCheckAddr s (type == .ifetch) vaddr = (false, gpf)) :
    outcome (mmuCheckRange vaddr type s) = .raise (.exception (mmuCheckCause s gpf type)) := by
  simp only [mmuCheckRange, run_bind, EStateM.bind, run_get, h, Bool.not_false, if_true, run_ite,
    mmuCheckCause]
  split_ifs <;> rw [mmuCheckRaise_raise] <;> simp_all

theorem mmuCheckRange_pass {s : Hart} {vaddr : BitVec 64} {type : MemType} {gpf : Bool}
    (h : mmuCheckAddr s (type == .ifetch) vaddr = (true, gpf)) :
    mmuCheckRange vaddr type s = .ok (cachedMmuState s (type == .ifetch)) s := by
  simp [mmuCheckRange, EStateM.bind, h]

theorem isaMisalignDataAddrCheck_pass {P : Platform} {vaddr : BitVec 64} {len : Nat} {type : MemType}
    (h : (vaddr &&& (BitVec.ofNat 64 len - 1) != 0 && P.acSoft) = false) (s : Hart) :
    isaMisalignDataAddrCheck P vaddr len type s = .ok () s := by
  unfold isaMisalignDataAddrCheck
  cases hm : (vaddr &&& (BitVec.ofNat 64 len - 1) != 0) <;> cases hac : P.acSoft <;> simp_all

theorem toNat_and_lowMask (x : BitVec 64) {k : Nat} (hk : k ≤ 64) :
    (x &&& lowMask k).toNat = x.toNat % 2 ^ k := by
  have h : 2 ^ k - 1 < 2 ^ 64 := by
    have := Nat.pow_le_pow_right (show 0 < 2 by decide) hk
    omega
  rw [BitVec.toNat_and, lowMask, BitVec.toNat_ofNat, Nat.mod_eq_of_lt h, Nat.and_pow_two_sub_one_eq_mod]

theorem misaligned_iff (vaddr : BitVec 64) {len : Nat} (hlen : len = 1 ∨ len = 2 ∨ len = 4 ∨ len = 8) :
    (vaddr &&& (BitVec.ofNat 64 len - 1) != 0) = decide (vaddr.toNat % len ≠ 0) := by
  have key : ∀ k ≤ 64, (vaddr &&& lowMask k != 0) = decide (vaddr.toNat % 2 ^ k ≠ 0) := by
    intro k hk
    rw [Bool.eq_iff_iff, bne_iff_ne, decide_eq_true_iff, ne_eq, ne_eq, BitVec.toNat_eq,
      toNat_and_lowMask vaddr hk]
    rfl
  rcases hlen with rfl | rfl | rfl | rfl
  exacts [key 0 (by omega), key 1 (by omega), key 2 (by omega), key 3 (by omega)]

section Inversion

variable {P : Platform} {vaddr : BitVec 64} {len : Nat} {type : MemType} {s s' : Hart}

theorem isaMisalignDataAddrCheck_ok {u : Unit}
    (h : isaMisalignDataAddrCheck P vaddr len type s = .ok u s') : s' = s := by
  unfold isaMisalignDataAddrCheck at h
  split at h
  · split at h
    · simp [EStateM.bind] at h
    · cases h; rfl
  · cases h; rfl

theorem mmuCheckRange_ok {r : MmuState} (h : mmuCheckRange vaddr type s = .ok r s') :
    s' = s ∧ r = cachedMmuState s (type == .ifetch) := by
  rcases hm : mmuCheckAddr s (type == .ifetch) vaddr with ⟨ok, gpf⟩
  cases ok
  · have := mmuCheckRange_raise hm
    rw [h] at this
    cases this
  · rw [mmuCheckRange_pass hm] at h
    cases h
    exact ⟨rfl, rfl⟩

theorem isaMmuCheck_ok {r : MmuState} (h : isaMmuCheck P vaddr len type s = .ok r s') :
    s' = s ∧ r = cachedMmuState s (type == .ifetch) := by
  unfold isaMmuCheck at h
  split at h
  · obtain ⟨u, s₁, h₁, h₂⟩ := bind_eq_ok h
    obtain rfl := isaMisalignDataAddrCheck_ok h₁
    exact mmuCheckRange_ok h₂
  · exact mmuCheckRange_ok h

/-- In a fresh state, a data access outside HLV/HSV under a Bare `satp` is never translated,
whatever V, `vsatp` and `hgatp` are. -/
theorem isaMmuCheck_direct_of_satp_bare (hf : Fresh s) (hhld : s.hld_st = false)
    (htype : type ≠ .ifetch) (hsatp : s.satp.mode = 0) {r : MmuState}
    (h : isaMmuCheck P vaddr len type s = .ok r s') : r = .direct := by
  obtain ⟨-, rfl⟩ := isaMmuCheck_ok h
  simp [cachedMmuState, htype, hhld, hf.data, updateMmuStateInternal, hsatp]

end Inversion

section Frames

variable {view : Hart → β} [TvalBlind view]

theorem isaMisalignDataAddrCheck_frame (P : Platform) (vaddr : BitVec 64) (len : Nat)
    (type : MemType) : Frame view (isaMisalignDataAddrCheck P vaddr len type) := by
  unfold isaMisalignDataAddrCheck
  exact Frame.ite (.ite (.bind .get fun _ => .bind (.writeIntrTval _ _) fun _ => .longjmp _) (.pure _))
    (.pure _)

theorem mmuCheckRaise_frame (s : Hart) (gpf : Bool) (gex pex vaddr : BitVec 64) :
    Frame view (mmuCheckRaise s gpf gex pex vaddr : Exec α) := by
  unfold mmuCheckRaise
  exact Frame.ite (.bind (.writeGpfTval _ _ _) fun _ => .longjmp _)
    (.ite (.bind (.writeTval _ _) fun _ => .longjmp _) (.bind (.writeIntrTval _ _) fun _ => .longjmp _))

theorem mmuCheckRange_frame (vaddr : BitVec 64) (type : MemType) :
    Frame view (mmuCheckRange vaddr type) := by
  unfold mmuCheckRange
  refine Frame.bind .get fun s => ?_
  split
  exact .ite (.ite (mmuCheckRaise_frame _ _ _ _ _)
    (.ite (mmuCheckRaise_frame _ _ _ _ _) (mmuCheckRaise_frame _ _ _ _ _))) (.pure _)

end Frames

/-- `isa_mmu_check` changes no state but the trap-value registers. -/
theorem isaMmuCheck_tvalOnly (P : Platform) (vaddr : BitVec 64) (len : Nat) (type : MemType) :
    TvalOnly (isaMmuCheck P vaddr len type) := by
  unfold isaMmuCheck
  exact Frame.ite (.bind (isaMisalignDataAddrCheck_frame _ _ _ _) fun _ => mmuCheckRange_frame _ _)
    (.bind (.pure _) fun _ => mmuCheckRange_frame _ _)

/-- A Sv39 table at `0x80000000` whose entry 0 is a 1 GiB leaf at `0x80000000`, A and D set. -/
def gigaLeafPlatform : Platform :=
  { Platform.base with paddrRead := fun a => if a = 0x80000000 then 0x200000cf else 0 }

def vsTranslatedHart : Hart :=
  { Hart.base with mode := MODE_S, v := true, vsatp := ⟨8, 0x80000⟩, h_mmu_state := .translate }

/-- With `satp` Bare, `isa_mmu_check` answers Direct for a VS-mode load that `ptw` translates
through `vsatp`. -/
theorem isaMmuCheck_direct_under_vs_translation :
    Fresh vsTranslatedHart ∧
      outcome (isaMmuCheck gigaLeafPlatform 0 8 .read vsTranslatedHart) = .ret .direct ∧
      outcome (ptw gigaLeafPlatform 0 .read vsTranslatedHart) = .ret 0x80000000 := by
  have hf : Fresh vsTranslatedHart := ⟨by decide, by decide, by decide⟩
  obtain ⟨r, s', h⟩ : ∃ r s', isaMmuCheck gigaLeafPlatform 0 8 .read vsTranslatedHart = .ok r s' :=
    ⟨_, _, rfl⟩
  refine ⟨hf, ?_, by decide⟩
  rw [h, isaMmuCheck_direct_of_satp_bare hf rfl (by decide) rfl h]
  rfl

def lpfToHSHart : Hart :=
  { Hart.base with mode := MODE_S, v := true, medeleg := 1 <<< 13, vsatp := ⟨8, 0x80000⟩ }

/-- A VS-mode load that fails the range check writes `vstval`, though its page fault is taken in
HS, whose `stval` stays 0. -/
theorem isaMmuCheck_vstval_for_hs_trap :
    outcome (isaMmuCheck Platform.base (1 <<< 38) 8 .read lpfToHSHart) = .raise (.exception EX_LPF) ∧
      (final (isaMmuCheck Platform.base (1 <<< 38) 8 .read lpfToHSHart)).vstval = 1 <<< 38 ∧
      (raiseIntr Platform.base EX_LPF 0
        (final (isaMmuCheck Platform.base (1 <<< 38) 8 .read lpfToHSHart))).2.level = .HS ∧
      (raiseIntr Platform.base EX_LPF 0
        (final (isaMmuCheck Platform.base (1 <<< 38) 8 .read lpfToHSHart))).2.stval = 0 := by
  decide

def bareGuestHart : Hart := { Hart.base with mode := MODE_S, v := true, satp := ⟨8, 0⟩ }

/-- With `vsatp` and `hgatp` Bare and `satp` Sv39, `isa_mmu_check` raises a guest-page fault for
an address `ptw` returns unchanged. -/
theorem isaMmuCheck_gpf_under_bare_hgatp :
    outcome (isaMmuCheck Platform.base (1 <<< 41) 8 .read bareGuestHart) =
        .raise (.exception EX_LGPF) ∧
      outcome (ptw Platform.base (1 <<< 41) .read bareGuestHart) = .ret (1 <<< 41) := by
  decide

theorem ushiftRight_eq_zero_iff (x : BitVec 64) (k : Nat) :
    x >>> k = 0#64 ↔ ∀ j, k ≤ j → j < 64 → x.getLsbD j = false := by
  constructor
  · intro h j hkj hj
    have := congrArg (·.getLsbD (j - k)) h
    simp only [BitVec.getLsbD_ushiftRight, BitVec.getLsbD_zero] at this
    rwa [Nat.add_sub_cancel' hkj] at this
  · intro h
    ext i
    simp only [BitVec.getLsbD_ushiftRight, BitVec.getLsbD_zero]
    by_cases hi : k + i.val < 64
    · exact h _ (by omega) hi
    · exact BitVec.getLsbD_ge _ _ (by omega)

theorem ushiftRight_eq_lowMask_iff (x : BitVec 64) {k : Nat} (hk : k < 64) :
    x >>> k = lowMask (64 - k) ↔ ∀ j, k ≤ j → j < 64 → x.getLsbD j = true := by
  constructor
  · intro h j hkj hj
    have := congrArg (·.getLsbD (j - k)) h
    simp only [BitVec.getLsbD_ushiftRight, getLsbD_lowMask] at this
    rw [Nat.add_sub_cancel' hkj] at this
    rw [this]; simp; omega
  · intro h
    ext i
    simp only [BitVec.getLsbD_ushiftRight, getLsbD_lowMask]
    by_cases hi : k + i.val < 64
    · simp [h _ (by omega) hi]; omega
    · rw [BitVec.getLsbD_ge _ _ (by omega)]; simp; omega

theorem vaMsbs_ok_eq_isCanonical (x : BitVec 64) {w : Nat} (hw0 : 0 < w) (hw : w ≤ 64) :
    (x >>> (w - 1) == lowMask (65 - w) || x >>> (w - 1) == 0#64) = isCanonical w x := by
  have h65 : 65 - w = 64 - (w - 1) := by omega
  rw [Bool.eq_iff_iff]
  simp only [Bool.or_eq_true, beq_iff_eq, h65, ushiftRight_eq_lowMask_iff x (by omega : w - 1 < 64),
    ushiftRight_eq_zero_iff, isCanonical, List.all_eq_true, List.mem_range, decide_eq_true_eq]
  constructor
  · rintro (h | h) j hj
    all_goals
      by_cases hjw : j < w
      · exact .inl hjw
      · exact .inr (by rw [h j (by omega) hj, h (w - 1) (Nat.le_refl _) (by omega)])
  · intro h
    cases hb : x.getLsbD (w - 1)
    · refine .inr fun j hj hj64 => ?_
      rcases h j hj64 with h' | h'
      · rw [show j = w - 1 by omega, hb]
      · rw [h', hb]
    · refine .inl fun j hj hj64 => ?_
      rcases h j hj64 with h' | h'
      · rw [show j = w - 1 by omega, hb]
      · rw [h', hb]

theorem vaMsbs48_eq_isCanonical (vaddr : BitVec 64) :
    (vaddr >>> 47 == ((1 : BitVec 64) <<< (63 - 47 + 1)) - 1 || vaddr >>> 47 == 0) =
      isCanonical 48 vaddr := by
  rw [show ((1 : BitVec 64) <<< (63 - 47 + 1)) - 1 = lowMask 17 by decide]
  exact vaMsbs_ok_eq_isCanonical vaddr (w := 48) (by omega) (by omega)

theorem vaMsbs39_eq_isCanonical (vaddr : BitVec 64) :
    (vaddr >>> 38 == ((1 : BitVec 64) <<< (63 - 38 + 1)) - 1 || vaddr >>> 38 == 0) =
      isCanonical 39 vaddr := by
  rw [show ((1 : BitVec 64) <<< (63 - 38 + 1)) - 1 = lowMask 26 by decide]
  exact vaMsbs_ok_eq_isCanonical vaddr (w := 39) (by omega) (by omega)

theorem mmuCheckAddr_of_not_v {s : Hart} (hv : s.v = false) (is_ifetch : Bool) (vaddr : BitVec 64) :
    mmuCheckAddr s is_ifetch vaddr =
      (if decide (effMode s is_ifetch < MODE_M) && (s.satp.mode == 8 || s.satp.mode == 9) then
        isCanonical (if s.satp.mode == 9 then 48 else 39) vaddr else true, false) := by
  unfold mmuCheckAddr
  simp only [hv, Bool.false_and, Bool.or_false, Bool.false_eq_true, if_false,
    vaMsbs48_eq_isCanonical, vaMsbs39_eq_isCanonical]
  cases s.satp.mode == 9 <;> rfl

theorem mmuCheckAddr_of_virt {s : Hart} (hv : s.v = true) (hvs : s.vsatp.mode = 8 ∨ s.vsatp.mode = 9)
    {is_ifetch : Bool} (hlt : effMode s is_ifetch < MODE_M) (vaddr : BitVec 64) :
    mmuCheckAddr s is_ifetch vaddr =
      (isCanonical (if s.satp.mode == 9 || s.vsatp.mode == 9 || s.hgatp.mode == 9 then 48 else 39)
        vaddr, false) := by
  have h0 : (s.vsatp.mode == 0) = false := by rcases hvs with h | h <;> rw [h] <;> rfl
  have hen : (s.satp.mode == 8 || s.vsatp.mode == 8 || s.hgatp.mode == 8 ||
      (s.satp.mode == 9 || s.vsatp.mode == 9 || s.hgatp.mode == 9)) = true := by
    rcases hvs with h | h <;> simp [h]
  unfold mmuCheckAddr
  simp only [hv, Bool.true_and, h0, Bool.false_eq_true, if_false, hlt, decide_True, ← Bool.or_assoc,
    hen, if_true, vaMsbs48_eq_isCanonical, vaMsbs39_eq_isCanonical]
  split <;> rfl

section NotVirtualized

variable {P : Platform} {s : Hart} {vaddr : BitVec 64} {len : Nat} {type : MemType}

theorem isaMmuCheck_aligned
    (h : type = .ifetch ∨ (vaddr &&& (BitVec.ofNat 64 len - 1) != 0 && P.acSoft) = false) :
    isaMmuCheck P vaddr len type s = mmuCheckRange vaddr type s := by
  unfold isaMmuCheck
  split
  next hc => rw [run_bind, EStateM.bind, isaMisalignDataAddrCheck_pass (h.resolve_left (by simpa using hc)) s]
  next => rfl

variable (hv : s.v = false) (hhld : s.hld_st = false)
include hv hhld

end NotVirtualized

section TrapValues

theorem mmuCheckAddr_gpf_v {s : Hart} {is_ifetch : Bool} {vaddr : BitVec 64}
    (h : (mmuCheckAddr s is_ifetch vaddr).2 = true) : s.v = true := by
  cases hv : s.v
  · rw [mmuCheckAddr_of_not_v hv] at h
    cases h
  · rfl

variable {cs : List (BitVec 64)} (hcs : siteTvalCauses ⊆ cs) {q : Hart → Prop} (hq : WalkStable q)
include hcs

theorem isaMisalignDataAddrCheck_tval (P : Platform) (vaddr : BitVec 64) (len : Nat) (type : MemType) :
    Raises (tvalAt cs vaddr) q (isaMisalignDataAddrCheck P vaddr len type) := by
  unfold isaMisalignDataAddrCheck
  exact .ite (.ite (Raises.bind_get fun s _ => .site (hcs (by split <;> decide)) (Raises.longjmp _))
    (.pure _)) (.pure _)

variable (hG : ∀ s, q s → (s.hld_st || s.v) = true → GpfReported cs s)
  (hP : ∀ s, q s → s.v = true → GuestPfReported s)
include hG hP

theorem mmuCheckRange_tval (vaddr : BitVec 64) (type : MemType) :
    Raises (tvalAt cs vaddr) q (mmuCheckRange vaddr type) := by
  unfold mmuCheckRange
  refine Raises.bind_read fun s hs => ?_
  have hr : ∀ gpf gex pex, (gpf = true → s.v = true) → gex ∈ gpfCauses → pex ∈ siteTvalCauses →
      pex ∈ [EX_IPF, EX_LPF, EX_SPF] → Raises (tvalAt cs vaddr) (fun t => q t ∧ t.eraseWalk = s.eraseWalk)
        (mmuCheckRaise s gpf gex pex vaddr : Exec MmuState) := fun gpf gex pex hgv hgex hpex hpf => by
    have hhv : ∀ t : Hart, t.eraseWalk = s.eraseWalk → (t.hld_st || t.v) = (s.hld_st || s.v) :=
      fun _ h => (congrArg (fun u : Hart => u.hld_st || u.v) h :)
    unfold mmuCheckRaise
    refine .ite_dep (fun h => .gpf (fun t ht => hG t ht.1 ?_ gex hgex) (Raises.longjmp _))
      fun _ => .ite_dep (fun hv => .guest (hcs hpex) (hP s hs hv pex hpf) (fun _ ht => ht.2)
        (Raises.longjmp _)) fun _ => .site (hcs hpex) (Raises.longjmp _)
    rw [hhv t ht.2]
    simp only [Bool.or_eq_true] at h ⊢
    exact h.imp_right hgv
  rcases hm : mmuCheckAddr s (type == .ifetch) vaddr with ⟨va_msbs_ok, gpf⟩
  have hgv : gpf = true → s.v = true := fun h => mmuCheckAddr_gpf_v (by rw [hm]; exact h)
  exact .ite (.ite (hr _ _ _ hgv (by decide) (by decide) (by decide))
    (.ite (hr _ _ _ hgv (by cases s.amo <;> decide) (by cases s.amo <;> decide) (by cases s.amo <;> decide))
      (hr _ _ _ hgv (by decide) (by decide) (by decide)))) (.pure _)

include hq in
theorem isaMmuCheck_tval (P : Platform) (vaddr : BitVec 64) (len : Nat) (type : MemType) :
    Raises (tvalAt cs vaddr) q (isaMmuCheck P vaddr len type) := by
  unfold isaMmuCheck
  exact .ite (.bind (isaMisalignDataAddrCheck_tval hcs _ _ _ _) (isaMisalignDataAddrCheck_frame _ _ _ _) hq
      fun _ => mmuCheckRange_tval hcs hG hP _ _)
    (.bind (.pure _) (.pure _) hq fun _ => mmuCheckRange_tval hcs hG hP _ _)

end TrapValues

def sv39Hart : Hart := { Hart.base with mode := MODE_S, satp := ⟨8, 0x80000⟩ }

end NemuPriv
