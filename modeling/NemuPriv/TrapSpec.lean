import NemuPriv.Trap

namespace NemuPriv

/-- Modelled from the spec: the instruction-address-misaligned cause. -/
def EX_IAM : BitVec 64 := 0

/-- Modelled from the spec: whether the trap value of `NO` is a guest virtual address: always
for a guest-page fault, and for an address-valued cause when the access ran with V=1, by
HLV/HSV, or, for a data access, under MPRV with MPV=1. -/
def refGva (s : Hart) (NO : BitVec 64) : Bool :=
  let fetchSide := NO = EX_IAM || NO = EX_IAF || NO = EX_IPF || NO = EX_BP
  let dataSide := NO = EX_LAM || NO = EX_LAF || NO = EX_SAM || NO = EX_SAF || NO = EX_LPF ||
    NO = EX_SPF
  NO ∈ gpfCauses || ((fetchSide || dataSide) && (s.v || s.hld_st)) ||
    (dataSide && s.mstatus.mprv && s.mstatus.mpv)

def mprvGuestHart : Hart :=
  { Hart.base with
    mstatus := { Hart.base.mstatus with mprv := true, mpv := true, mpp := 1 } }

/-- A breakpoint under MPRV with MPV set is taken in M with a machine address in `mtval`, yet
`raise_intr` sets `mstatus.GVA`: it reads MPV in place of V whenever MPRV is set. -/
theorem raiseIntr_breakpoint_mprv_gva :
    (raiseIntr Platform.base EX_BP 0x80000000 mprvGuestHart).2.mode = MODE_M ∧
      (raiseIntr Platform.base EX_BP 0x80000000 mprvGuestHart).2.mtval = 0x80000000 ∧
      refGva mprvGuestHart EX_BP = false ∧
      (raiseIntr Platform.base EX_BP 0x80000000 mprvGuestHart).2.mstatus.gva = true := by
  decide

/-- Modelled from the spec: `mret`. -/
def mret (s : Hart) : BitVec 64 × Hart :=
  let mpp := s.mstatus.mpp.toNat
  (s.mepc, { s with
    mode := mpp
    v := if mpp = MODE_M then false else s.mstatus.mpv
    mstatus := { s.mstatus with
      mie := s.mstatus.mpie, mpie := true, mpp := 0, mpv := false,
      mprv := if mpp = MODE_M then s.mstatus.mprv else false } })

/-- Modelled from the spec: `sret`, from VS-mode or from HS-mode. -/
def sret (s : Hart) : BitVec 64 × Hart :=
  if s.v then
    (s.vsepc, { s with
      mode := s.vsstatus.spp.toNat
      vsstatus := { s.vsstatus with sie := s.vsstatus.spie, spie := true, spp := 0 } })
  else
    (s.sepc, { s with
      mode := s.mstatus.spp.toNat
      v := s.hstatus.spv
      mstatus := { s.mstatus with sie := s.mstatus.spie, spie := true, spp := 0, mprv := false }
      hstatus := { s.hstatus with spv := false } })

/-- Modelled from the spec: `mret` in M, `sret` in HS or VS. -/
def trapReturn (s : Hart) : BitVec 64 × Hart := if s.mode = MODE_M then mret s else sret s

/-- Trap entry saves what the return of its level restores: whatever the cause, the trap masks
the interrupts of the level it is taken into, and that level's return resumes at `epc` with the
privilege, the virtualization mode and the level's interrupt enable the hart had before. -/
theorem raiseIntr_trapReturn (P : Platform) (NO epc : BitVec 64) {s : Hart}
    (hmode : s.mode = MODE_U ∨ s.mode = MODE_S ∨ s.mode = MODE_M)
    (hv : s.v = true → s.mode ≠ MODE_M) :
    (raiseIntr P NO epc s).2.level.globalIE (raiseIntr P NO epc s).2 = false ∧
      (trapReturn (raiseIntr P NO epc s).2).1 = epc ∧
      (trapReturn (raiseIntr P NO epc s).2).2.mode = s.mode ∧
      (trapReturn (raiseIntr P NO epc s).2).2.v = s.v ∧
      (raiseIntr P NO epc s).2.level.globalIE (trapReturn (raiseIntr P NO epc s).2).2 =
        (raiseIntr P NO epc s).2.level.globalIE s := by
  have hlow : s.mode < MODE_M → (BitVec.ofNat 1 s.mode).toNat = s.mode := fun h => by
    simp only [BitVec.toNat_ofNat]
    unfold MODE_U MODE_S MODE_M at *
    omega
  have hSM : MODE_S ≠ MODE_M := by decide
  rcases raiseIntr_cases P NO epc s with ⟨hVS, h⟩ | ⟨-, hS, h⟩ | ⟨-, -, h⟩ <;> rw [h]
  · obtain ⟨hv1, hlt⟩ := intrDelegVS_v hVS
    simp only [trapReturn, sret, updateMmuState_mode, updateMmuState_v, updateMmuState_vsstatus,
      updateMmuState_vsepc, updateMmuState_level, trapToVS_mode, trapToVS_v, trapToVS_vsepc,
      trapToVS_vsstatus, trapToVS_level, Level.globalIE, if_neg hSM, if_true, hlow hlt, hv1, and_self]
  · have hlt := intrDelegS_mode hS
    simp only [trapReturn, sret, updateMmuState_mode, updateMmuState_v, updateMmuState_mstatus,
      updateMmuState_hstatus, updateMmuState_sepc, updateMmuState_level, trapToHS_mode, trapToHS_v,
      trapToHS_sepc, trapToHS_mstatus, trapToHS_hstatus, trapToHS_level, Level.globalIE, if_neg hSM,
      Bool.false_eq_true, if_false, hlow hlt, and_self]
  · have hm2 : (BitVec.ofNat 2 s.mode).toNat = s.mode := by
      simp only [BitVec.toNat_ofNat]
      unfold MODE_U MODE_S MODE_M at hmode
      omega
    simp only [trapReturn, mret, updateMmuState_mode, updateMmuState_v, updateMmuState_mstatus,
      updateMmuState_mepc, updateMmuState_level, trapToM_mode, trapToM_v, trapToM_mepc,
      trapToM_mstatus, trapToM_level, Level.globalIE, if_true, hm2, true_and, and_true]
    split
    · rename_i hM
      exact (Bool.eq_false_iff.2 fun h => hv h hM).symm
    · rfl

def guestHart : Hart := { Hart.base with mode := MODE_S, v := true }

theorem raiseIntr_trapReturn_guest_breakpoint :
    (guestHart.mode = MODE_U ∨ guestHart.mode = MODE_S ∨ guestHart.mode = MODE_M) ∧
      (guestHart.v = true → guestHart.mode ≠ MODE_M) ∧
      (raiseIntr Platform.base EX_BP 0x1000 guestHart).2.level.globalIE
          (raiseIntr Platform.base EX_BP 0x1000 guestHart).2 = false ∧
      (trapReturn (raiseIntr Platform.base EX_BP 0x1000 guestHart).2).1 = 0x1000 ∧
      (trapReturn (raiseIntr Platform.base EX_BP 0x1000 guestHart).2).2.mode = guestHart.mode ∧
      (trapReturn (raiseIntr Platform.base EX_BP 0x1000 guestHart).2).2.v = guestHart.v ∧
      (raiseIntr Platform.base EX_BP 0x1000 guestHart).2.level.globalIE
          (trapReturn (raiseIntr Platform.base EX_BP 0x1000 guestHart).2).2 =
        (raiseIntr Platform.base EX_BP 0x1000 guestHart).2.level.globalIE guestHart :=
  have h₁ : guestHart.mode = MODE_U ∨ guestHart.mode = MODE_S ∨ guestHart.mode = MODE_M := by decide
  have h₂ : guestHart.v = true → guestHart.mode ≠ MODE_M := by decide
  ⟨h₁, h₂, raiseIntr_trapReturn Platform.base EX_BP 0x1000 h₁ h₂⟩

/-- Modelled from the spec: the level interrupt `irq` traps to. -/
def intrDest (s : Hart) (irq : Nat) : Level :=
  if !s.mideleg.getLsbD irq then .M else if s.hideleg.getLsbD irq then .VS else .HS

/-- Modelled from the spec: whether interrupts bound for a level are globally enabled. -/
def destEnabled (s : Hart) : Level → Bool
  | .M => decide (s.mode < MODE_M) || (s.mode == MODE_M && s.mstatus.mie)
  | .HS => s.v || decide (s.mode < MODE_S) || (s.mode == MODE_S && s.mstatus.sie)
  | .VS => s.v && (decide (s.mode < MODE_S) || (s.mode == MODE_S && s.vsstatus.sie))
  | .VU | .U => false

/-- Modelled from the spec: `irq` is pending, enabled and globally enabled at its destination. -/
def intrCandidate (s : Hart) (irq : Nat) : Bool :=
  s.mip.getLsbD irq && s.mie.getLsbD irq && destEnabled s (intrDest s irq)

/-- Modelled from the spec: the order of the interrupts bound for one level. -/
def specPriority (P : Platform) : List Nat :=
  [IRQ_MEIP, IRQ_MSIP, IRQ_MTIP, IRQ_SEIP, IRQ_SSIP, IRQ_STIP, IRQ_SGEI, IRQ_VSEIP, IRQ_VSSIP,
    IRQ_VSTIP] ++ if P.sscofpmf then [IRQ_LCOFI] else []

/-- Modelled from the spec: the interrupt the privileged architecture takes, M-bound before
HS-bound before VS-bound, in the order of `specPriority` within a level. -/
def refQueryIntr (P : Platform) (s : Hart) : BitVec 64 :=
  let order := [Level.M, .HS, .VS].flatMap fun d => (specPriority P).filter fun irq => intrDest s irq == d
  match order.find? (intrCandidate s) with
  | some irq => BitVec.ofNat 64 irq ||| INTR_BIT
  | none => P.intrEmpty

theorem globalEnable_eq_destEnabled (s : Hart) {irq : Nat} (hirq : irq < 64) :
    globalEnable s irq = destEnabled s (intrDest s irq) := by
  simp only [globalEnable, intrDest, BitVec.ofNat_eq_ofNat, Bits.and_one_shiftLeft_ne_zero _ hirq]
  cases s.mideleg.getLsbD irq <;> cases s.hideleg.getLsbD irq <;>
    simp only [destEnabled, Bool.not_false, Bool.not_true, Bool.and_self, Bool.and_false,
      Bool.false_and, Bool.true_and, Bool.and_true, Bool.false_eq_true, if_true, if_false] <;>
    cases s.v <;> simp [Bool.or_comm, Bool.or_left_comm]

theorem priority_lt (P : Platform) : ∀ irq ∈ priority P, irq < 64 := by
  intro irq h
  simp only [priority, List.mem_append, List.mem_cons, List.mem_singleton] at h
  split at h <;> simp [IRQ_USIP, IRQ_SSIP, IRQ_VSSIP, IRQ_MSIP, IRQ_UTIP, IRQ_STIP, IRQ_VSTIP,
    IRQ_MTIP, IRQ_UEIP, IRQ_SEIP, IRQ_VSEIP, IRQ_MEIP, IRQ_SGEI, IRQ_LCOFI] at h <;> omega

/-- `isa_query_intr` returns the first interrupt of its fixed list that is pending, enabled and
globally enabled at its architectural destination, and `INTR_EMPTY` when there is none. -/
theorem isaQueryIntr_first_candidate (P : Platform) (s : Hart) :
    isaQueryIntr P s =
      match (priority P).find? (intrCandidate s) with
      | some irq => BitVec.ofNat 64 irq ||| INTR_BIT
      | none => P.intrEmpty := by
  have hpred : ∀ irq ∈ priority P,
      ((s.mie &&& s.mip) &&& (1 : BitVec 64) <<< irq != 0 && globalEnable s irq) = intrCandidate s irq := by
    intro irq hirq
    have hlt := priority_lt P irq hirq
    simp only [globalEnable_eq_destEnabled s hlt, intrCandidate, BitVec.ofNat_eq_ofNat,
      Bits.and_one_shiftLeft_ne_zero _ hlt, BitVec.getLsbD_and, Bool.and_comm (s.mie.getLsbD irq)]
  unfold isaQueryIntr
  dsimp only
  split_ifs with h0
  · have hnone : (priority P).find? (intrCandidate s) = none := List.find?_eq_none.2 fun irq _ => by
      have := congrArg (·.getLsbD irq) h0
      simp only [BitVec.getLsbD_and, BitVec.getLsbD_zero] at this
      simp [intrCandidate, Bool.and_comm (s.mip.getLsbD irq), this]
    rw [hnone]
  · exact Bits.find?_congr_mem hpred ▸ rfl

def seiStiHart : Hart :=
  { Hart.base with
    mode := MODE_U, mideleg := 1 <<< 9, mip := (1 <<< 9) ||| (1 <<< 5), mie := (1 <<< 9) ||| (1 <<< 5) }

/-- `isa_query_intr` takes the HS-bound SEI, which its list puts first; the architecture takes
the M-bound STI. -/
theorem isaQueryIntr_hs_before_m :
    isaQueryIntr Platform.base seiStiHart = BitVec.ofNat 64 IRQ_SEIP ||| INTR_BIT ∧
      refQueryIntr Platform.base seiStiHart = BitVec.ofNat 64 IRQ_STIP ||| INTR_BIT := by
  decide

end NemuPriv
