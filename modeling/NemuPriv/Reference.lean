import NemuPriv.State

namespace NemuPriv

def lowMask (n : Nat) : BitVec 64 := BitVec.ofNat 64 (2 ^ n - 1)

@[simp] theorem getLsbD_lowMask (n j : Nat) :
    (lowMask n).getLsbD j = (decide (j < 64) && decide (j < n)) := by
  simp [lowMask, BitVec.getLsbD_ofNat, Nat.testBit_two_pow_sub_one]

/-- Modelled from the spec: bits `63` down to `w` of `vaddr` are copies of bit `w - 1`. -/
def isCanonical (w : Nat) (vaddr : BitVec 64) : Bool :=
  (List.range 64).all fun j => j < w || vaddr.getLsbD j == vaddr.getLsbD (w - 1)

theorem isCanonical_mono {w w' : Nat} {vaddr : BitVec 64} (hw : 0 < w) (hww : w ≤ w')
    (h : isCanonical w vaddr = true) : isCanonical w' vaddr = true := by
  simp only [isCanonical, List.all_eq_true, List.mem_range, Bool.or_eq_true, decide_eq_true_eq,
    beq_iff_eq] at *
  intro j hj
  by_cases hjw : j < w'
  · exact .inl hjw
  · refine .inr (((h j hj).resolve_left (by omega)).trans ?_)
    rcases h (w' - 1) (by omega) with hlt | heq
    · rw [show w' - 1 = w - 1 by omega]
    · exact heq.symm

/-- Modelled from the spec: the virtual page number field `i` of `vaddr`, from bit `12 + 9i`. -/
def vpn (vaddr : BitVec 64) (i : Nat) : BitVec 64 := (vaddr.extractLsb' (12 + 9 * i) 9).setWidth 64

/-- Modelled from the spec: the page a leaf of level `i` maps `vaddr` to. -/
def leafPage (ppn vaddr : BitVec 64) (i : Nat) : BitVec 64 :=
  ((ppn >>> (9 * i) <<< (9 * i)) ||| ((vaddr >>> 12) &&& lowMask (9 * i))) <<< 12

/-- Modelled from the spec: the leaf rules for an access from U-mode (`user`) or S-mode under
`mstatus.SUM` and `mstatus.MXR`, with the accessed and dirty bits. -/
def leafAllows (acc : Access) (user sum mxr : Bool) (pte : PTE) : Bool :=
  (if user then pte.u else !pte.u || (sum && acc != .fetch)) &&
    (match acc with
      | .fetch => pte.x
      | .read => pte.r || (mxr && pte.x)
      | .write => pte.w) &&
    pte.a && (acc != .write || pte.d)

/-- Modelled from the spec: a leaf translates when its rules allow the access and its superpage
is aligned. -/
def refLeaf (acc : Access) (user sum mxr : Bool) (vaddr : BitVec 64) (i : Nat) (pte : PTE) :
    Option (BitVec 64) :=
  if leafAllows acc user sum mxr pte && pte.ppn &&& lowMask (9 * i) == 0 then
    some (leafPage pte.ppn vaddr i)
  else none

/-- Modelled from the spec: level `i` of the walk, `below` the walk from the next level down. With
`strict`, a pointer entry with D, A or U set is a reserved encoding and faults. -/
def refLevel (mem : BitVec 64 → BitVec 64) (strict : Bool) (acc : Access) (user sum mxr : Bool)
    (vaddr : BitVec 64) (i : Nat) (base : BitVec 64)
    (below : Option (BitVec 64 → Option (BitVec 64))) : Option (BitVec 64) :=
  let pte : PTE := ⟨mem (base + vpn vaddr i * 8)⟩
  if !pte.v || (pte.w && !pte.r) || pte.pad != 0 then none
  else if pte.r || pte.x then refLeaf acc user sum mxr vaddr i pte
  else if strict && (pte.d || pte.a || pte.u) then none
  else below.bind fun walk => walk (pte.ppn <<< 12)

def refLoop (mem : BitVec 64 → BitVec 64) (strict : Bool) (acc : Access) (user sum mxr : Bool)
    (vaddr : BitVec 64) : Nat → BitVec 64 → Option (BitVec 64)
  | 0, base => refLevel mem strict acc user sum mxr vaddr 0 base none
  | i + 1, base => refLevel mem strict acc user sum mxr vaddr (i + 1) base
      (some (refLoop mem strict acc user sum mxr vaddr i))

/-- Modelled from the spec: the translation of `vaddr` under `satp`, Sv39 for `satp.MODE = 8`
and Sv48 otherwise; `none` is a page fault. -/
def refTranslate (mem : BitVec 64 → BitVec 64) (strict : Bool) (acc : Access) (user sum mxr : Bool)
    (satp : Atp) (vaddr : BitVec 64) : Option (BitVec 64) :=
  let levels := if satp.mode = 8 then 3 else 4
  if !isCanonical (12 + 9 * levels) vaddr then none
  else refLoop mem strict acc user sum mxr vaddr (levels - 1) (satp.ppn.setWidth 64 <<< 12)

def PTE.isPointer (pte : PTE) : Bool := pte.v && !pte.r && !pte.w && !pte.x

def PTE.isPtwPointer (pte : PTE) : Bool := pte.isPointer && pte.pad == 0

/-- The entries a walk reads from level `i`, each with its address, down to the first entry
`pointer` does not descend through. -/
def walkTrace (fetch : BitVec 64 → Option (BitVec 64)) (idx : Nat → BitVec 64) (pointer : PTE → Bool) :
    Nat → BitVec 64 → List (BitVec 64 × PTE)
  | 0, base => (fetch (base + idx 0 * 8)).toList.map fun val => (base + idx 0 * 8, ⟨val⟩)
  | i + 1, base =>
    match fetch (base + idx (i + 1) * 8) with
    | none => []
    | some val => (base + idx (i + 1) * 8, ⟨val⟩) ::
        if pointer ⟨val⟩ then walkTrace fetch idx pointer i (PTE.ppn ⟨val⟩ <<< 12) else []

section Trace

variable {fetch : BitVec 64 → Option (BitVec 64)} {idx : Nat → BitVec 64} {pointer : PTE → Bool}
  {base : BitVec 64} {val : BitVec 64}

theorem walkTrace_head {i : Nat} (hf : fetch (base + idx i * 8) = some val) :
    (base + idx i * 8, (⟨val⟩ : PTE)) ∈ walkTrace fetch idx pointer i base := by
  cases i <;> rw [walkTrace, hf]
  exacts [List.mem_singleton_self _, List.mem_cons_self _ _]

theorem walkTrace_tail {i : Nat} (hf : fetch (base + idx (i + 1) * 8) = some val)
    (hp : pointer ⟨val⟩ = true) {e : BitVec 64 × PTE}
    (he : e ∈ walkTrace fetch idx pointer i (PTE.ppn ⟨val⟩ <<< 12)) :
    e ∈ walkTrace fetch idx pointer (i + 1) base := by
  rw [walkTrace, hf]
  dsimp only
  rw [if_pos hp]
  exact List.mem_cons_of_mem _ he

end Trace

/-- The entries `ptw` reads for `vaddr` from the table of `atp`, through `fetch`. -/
def translateTrace (fetch : BitVec 64 → Option (BitVec 64)) (atp : Atp) (vaddr : BitVec 64) :
    List (BitVec 64 × PTE) :=
  let levels := if atp.mode = 8 then 3 else 4
  if !isCanonical (12 + 9 * levels) vaddr then []
  else walkTrace fetch (vpn vaddr) PTE.isPtwPointer (levels - 1) (atp.ppn.setWidth 64 <<< 12)

theorem refLoop_eq (mem : BitVec 64 → BitVec 64) (strict : Bool) (acc : Access) (user sum mxr : Bool)
    (vaddr : BitVec 64) (i : Nat) (base : BitVec 64) :
    refLoop mem strict acc user sum mxr vaddr i base =
      refLevel mem strict acc user sum mxr vaddr i base
        (match i with
          | 0 => none
          | l + 1 => some (refLoop mem strict acc user sum mxr vaddr l)) := by
  cases i <;> rfl

theorem leafPage_page_aligned (ppn vaddr : BitVec 64) (i : Nat) :
    leafPage ppn vaddr i &&& lowMask 12 = 0#64 := by
  ext j
  by_cases h : j.val < 12 <;> simp [leafPage, h]

/-- Modelled from the spec: field `i` of a guest-physical page number, eleven bits at the root
`root` and nine below. -/
def gvpn (root : Nat) (gpa : BitVec 64) (i : Nat) : BitVec 64 :=
  (gpa.extractLsb' (12 + 9 * i) (if i = root then 11 else 9)).setWidth 64

/-- Modelled from the spec: the rules of a G-stage leaf, every access counting as a U-mode one;
an HLVX read needs X, and `mstatus.MXR` lets X stand for R. -/
def gLeafAllows (acc : Access) (hlvx mxr : Bool) (pte : PTE) : Bool :=
  pte.u &&
    (match acc with
      | .fetch => pte.x
      | .read => if hlvx then pte.x else pte.r || (mxr && pte.x)
      | .write => pte.w) &&
    pte.a && (acc != .write || pte.d)

/-- Modelled from the spec: level `i` of the G-stage walk of `gpa`, with the rules of the first
stage. -/
def refGLevel (mem : BitVec 64 → BitVec 64) (acc : Access) (hlvx mxr : Bool) (gpa : BitVec 64)
    (root i : Nat) (base : BitVec 64) (below : Option (BitVec 64 → Option (BitVec 64))) :
    Option (BitVec 64) :=
  let pte : PTE := ⟨mem (base + gvpn root gpa i * 8)⟩
  if !pte.v || (pte.w && !pte.r) || pte.pad != 0 then none
  else if pte.r || pte.x then
    if gLeafAllows acc hlvx mxr pte && pte.ppn &&& lowMask (9 * i) == 0 then
      some (leafPage pte.ppn gpa i)
    else none
  else if pte.d || pte.a || pte.u then none
  else below.bind fun walk => walk (pte.ppn <<< 12)

def refGLoop (mem : BitVec 64 → BitVec 64) (acc : Access) (hlvx mxr : Bool) (gpa : BitVec 64)
    (root : Nat) : Nat → BitVec 64 → Option (BitVec 64)
  | 0, base => refGLevel mem acc hlvx mxr gpa root 0 base none
  | i + 1, base => refGLevel mem acc hlvx mxr gpa root (i + 1) base
      (some (refGLoop mem acc hlvx mxr gpa root i))

/-- Modelled from the spec: the G-stage translation of `gpa` under `hgatp`, Sv39x4 for
`hgatp.MODE = 8` and Sv48x4 otherwise; `none` is a guest-page fault. -/
def refGTranslate (mem : BitVec 64 → BitVec 64) (acc : Access) (hlvx mxr : Bool) (hgatp : Atp)
    (gpa : BitVec 64) : Option (BitVec 64) :=
  let levels := if hgatp.mode = 8 then 3 else 4
  if gpa >>> (14 + 9 * levels) != 0 then none
  else refGLoop mem acc hlvx mxr gpa (levels - 1) (levels - 1) (hgatp.ppn.setWidth 64 <<< 12)

/-- The entries `gpa_stage` reads for `gpa` under `hgatp`, each with its address. -/
def gTrace (mem : BitVec 64 → BitVec 64) (hgatp : Atp) (gpa : BitVec 64) : List (BitVec 64 × PTE) :=
  let levels := if hgatp.mode = 8 then 3 else 4
  walkTrace (fun a => some (mem a)) (gvpn (levels - 1) gpa) PTE.isPointer (levels - 1)
    (hgatp.ppn.setWidth 64 <<< 12)

theorem refGLoop_eq (mem : BitVec 64 → BitVec 64) (acc : Access) (hlvx mxr : Bool)
    (gpa : BitVec 64) (root i : Nat) (base : BitVec 64) :
    refGLoop mem acc hlvx mxr gpa root i base =
      refGLevel mem acc hlvx mxr gpa root i base
        (match i with
          | 0 => none
          | l + 1 => some (refGLoop mem acc hlvx mxr gpa root l)) := by
  cases i <;> rfl

theorem refGLevel_some {mem : BitVec 64 → BitVec 64} {acc : Access} {hlvx mxr : Bool}
    {gpa : BitVec 64} {root i : Nat} {base pa : BitVec 64}
    {below : Option (BitVec 64 → Option (BitVec 64))}
    (h : refGLevel mem acc hlvx mxr gpa root i base below = some pa) :
    let pte : PTE := ⟨mem (base + gvpn root gpa i * 8)⟩
    ((pte.v && !pte.r && !pte.w && !pte.x) = false ∧
        (!pte.v || (pte.w && !pte.r) || pte.pad != 0) = false ∧
        gLeafAllows acc hlvx mxr pte = true ∧ pte.ppn &&& lowMask (9 * i) = 0#64 ∧
        pa = leafPage pte.ppn gpa i) ∨
      ((pte.v && !pte.r && !pte.w && !pte.x) = true ∧
        ∃ walk ∈ below, walk (pte.ppn <<< 12) = some pa) := by
  unfold refGLevel at h
  intro pte
  dsimp only at h
  split at h
  · cases h
  rename_i hok
  simp only [Bool.not_eq_true] at hok
  split at h
  · rename_i hleaf
    split at h
    · rename_i hallow
      obtain rfl := Option.some.inj h
      simp only [Bool.and_eq_true, beq_iff_eq] at hallow
      refine .inl ⟨?_, hok, hallow.1, hallow.2, rfl⟩
      revert hleaf; cases pte.r <;> cases pte.x <;> simp
    · cases h
  rename_i hleaf
  split at h
  · cases h
  refine .inr ⟨?_, ?_⟩
  · revert hok hleaf; cases pte.v <;> cases pte.r <;> cases pte.w <;> cases pte.x <;> simp
  · cases hb : below with
    | none => simp [hb] at h
    | some walk => exact ⟨walk, rfl, by simpa [hb] using h⟩

theorem refGLevel_page_aligned {mem : BitVec 64 → BitVec 64} {acc : Access} {hlvx mxr : Bool}
    {gpa : BitVec 64} {root i : Nat} {base pa : BitVec 64}
    {below : Option (BitVec 64 → Option (BitVec 64))}
    (hbelow : ∀ walk ∈ below, ∀ b pa, walk b = some pa → pa &&& lowMask 12 = 0#64)
    (h : refGLevel mem acc hlvx mxr gpa root i base below = some pa) : pa &&& lowMask 12 = 0#64 := by
  rcases refGLevel_some h with ⟨-, -, -, -, rfl⟩ | ⟨-, walk, hw, h'⟩
  · exact leafPage_page_aligned _ _ _
  · exact hbelow walk hw _ _ h'

theorem refGLoop_page_aligned {mem : BitVec 64 → BitVec 64} {acc : Access} {hlvx mxr : Bool}
    {gpa : BitVec 64} {root : Nat} (i : Nat) (base : BitVec 64) {pa : BitVec 64}
    (h : refGLoop mem acc hlvx mxr gpa root i base = some pa) : pa &&& lowMask 12 = 0#64 := by
  induction i generalizing base pa with
  | zero => exact refGLevel_page_aligned (fun _ hw => by cases hw) h
  | succ l ih => exact refGLevel_page_aligned (fun _ hw b _ hp => by cases hw; exact ih b hp) h

theorem refGTranslate_page_aligned {mem : BitVec 64 → BitVec 64} {acc : Access} {hlvx mxr : Bool}
    {hgatp : Atp} {gpa pa : BitVec 64} (h : refGTranslate mem acc hlvx mxr hgatp gpa = some pa) :
    pa &&& lowMask 12 = 0#64 := by
  unfold refGTranslate at h
  dsimp only at h
  split at h <;> split at h
  all_goals first | cases h | exact refGLoop_page_aligned _ _ h

/-- Modelled from the spec: a VS-stage entry read under virtualization, its address first
translated by the G-stage walk as an implicit read. -/
def refGFetch (mem : BitVec 64 → BitVec 64) (mxr : Bool) (hgatp : Atp) (a : BitVec 64) :
    Option (BitVec 64) :=
  (refGTranslate mem .read false mxr hgatp a).map fun hpa => mem (hpa ||| (a &&& PAGE_MASK))

/-- Modelled from the spec: level `i` of the VS-stage walk, its entries read through `fetch`. -/
def refVSLevel (fetch : BitVec 64 → Option (BitVec 64)) (acc : Access) (user sum mxr : Bool)
    (vaddr : BitVec 64) (i : Nat) (base : BitVec 64)
    (below : Option (BitVec 64 → Option (BitVec 64))) : Option (BitVec 64) :=
  (fetch (base + vpn vaddr i * 8)).bind fun val =>
    let pte : PTE := ⟨val⟩
    if !pte.v || (pte.w && !pte.r) || pte.pad != 0 then none
    else if pte.r || pte.x then refLeaf acc user sum mxr vaddr i pte
    else if pte.d || pte.a || pte.u then none
    else below.bind fun walk => walk (pte.ppn <<< 12)

def refVSLoop (fetch : BitVec 64 → Option (BitVec 64)) (acc : Access) (user sum mxr : Bool)
    (vaddr : BitVec 64) : Nat → BitVec 64 → Option (BitVec 64)
  | 0, base => refVSLevel fetch acc user sum mxr vaddr 0 base none
  | i + 1, base => refVSLevel fetch acc user sum mxr vaddr (i + 1) base
      (some (refVSLoop fetch acc user sum mxr vaddr i))

/-- Modelled from the spec: the VS-stage translation of `vaddr`, Sv39 for `vsatp.MODE = 8` and
Sv48 otherwise. -/
def refVSTranslate (fetch : BitVec 64 → Option (BitVec 64)) (acc : Access) (user sum mxr : Bool)
    (vsatp : Atp) (vaddr : BitVec 64) : Option (BitVec 64) :=
  let levels := if vsatp.mode = 8 then 3 else 4
  if !isCanonical (12 + 9 * levels) vaddr then none
  else refVSLoop fetch acc user sum mxr vaddr (levels - 1) (vsatp.ppn.setWidth 64 <<< 12)

/-- Modelled from the spec: the two-stage translation of `vaddr` by a virtualized access other
than HLVX; `gmxr` is `mstatus.MXR`, `sum` and `mxr` those of the VS-stage. -/
def refTwoStage (mem : BitVec 64 → BitVec 64) (acc : Access) (user sum mxr gmxr : Bool)
    (vsatp hgatp : Atp) (vaddr : BitVec 64) : Option (BitVec 64) :=
  (refVSTranslate (refGFetch mem gmxr hgatp) acc user sum mxr vsatp vaddr).bind fun gpa =>
    refGTranslate mem acc false gmxr hgatp (gpa ||| (vaddr &&& PAGE_MASK))

/-- The guest-physical addresses the two-stage walk of `vaddr` hands to the G-stage walk: each
VS-stage entry's, then that of the page the VS-stage walk ends at. -/
def twoStageGpas (mem : BitVec 64 → BitVec 64) (acc : Access) (user sum mxr gmxr : Bool)
    (vsatp hgatp : Atp) (vaddr : BitVec 64) : List (BitVec 64) :=
  (translateTrace (refGFetch mem gmxr hgatp) vsatp vaddr).map Prod.fst ++
    ((refVSTranslate (refGFetch mem gmxr hgatp) acc user sum mxr vsatp vaddr).map
      fun gpa => gpa ||| (vaddr &&& PAGE_MASK)).toList

theorem refTwoStage_canonical {mem : BitVec 64 → BitVec 64} {acc : Access} {user sum mxr gmxr : Bool}
    {vsatp hgatp : Atp} {vaddr pa : BitVec 64}
    (h : refTwoStage mem acc user sum mxr gmxr vsatp hgatp vaddr = some pa) :
    isCanonical (12 + 9 * if vsatp.mode = 8 then 3 else 4) vaddr = true := by
  unfold refTwoStage refVSTranslate at h
  dsimp only at h
  cases hc : isCanonical (12 + 9 * if vsatp.mode = 8 then 3 else 4) vaddr
  · rw [hc] at h
    cases h
  · rfl

theorem refVSLoop_eq (fetch : BitVec 64 → Option (BitVec 64)) (acc : Access) (user sum mxr : Bool)
    (vaddr : BitVec 64) (i : Nat) (base : BitVec 64) :
    refVSLoop fetch acc user sum mxr vaddr i base =
      refVSLevel fetch acc user sum mxr vaddr i base
        (match i with
          | 0 => none
          | l + 1 => some (refVSLoop fetch acc user sum mxr vaddr l)) := by
  cases i <;> rfl

/-- What one level of the VS-stage walk can do when it translates, in the classification `ptw`
makes: stop at a leaf its rules allow, or descend through a pointer. -/
theorem refVSLevel_some {fetch : BitVec 64 → Option (BitVec 64)} {acc : Access} {user sum mxr : Bool}
    {vaddr : BitVec 64} {i : Nat} {base pa : BitVec 64}
    {below : Option (BitVec 64 → Option (BitVec 64))}
    (h : refVSLevel fetch acc user sum mxr vaddr i base below = some pa) :
    ∃ val, fetch (base + vpn vaddr i * 8) = some val ∧
      let pte : PTE := ⟨val⟩
      (!pte.v || (!pte.r && pte.w)) = false ∧
        (((pte.r || pte.x || pte.pad != 0#64) = true ∧ pte.pad = 0#64 ∧
            refLeaf acc user sum mxr vaddr i pte = some pa) ∨
          ((pte.r || pte.x || pte.pad != 0#64) = false ∧
            ∃ walk ∈ below, walk (pte.ppn <<< 12) = some pa)) := by
  unfold refVSLevel at h
  cases hf : fetch (base + vpn vaddr i * 8) with
  | none => rw [hf] at h; cases h
  | some val =>
    refine ⟨val, rfl, ?_⟩
    rw [hf, Option.some_bind] at h
    dsimp only at h ⊢
    generalize (⟨val⟩ : PTE) = pte at h ⊢
    split at h
    · cases h
    rename_i hok
    simp only [Bool.not_eq_true, Bool.or_eq_false_iff, bne_eq_false_iff_eq] at hok
    obtain ⟨⟨hv, hwr⟩, hpad⟩ := hok
    refine ⟨by rw [hv, Bool.and_comm, hwr]; rfl, ?_⟩
    split at h
    · exact .inl ⟨by simp_all, hpad, h⟩
    split at h
    · cases h
    rename_i hleaf _
    refine .inr ⟨by simp_all, ?_⟩
    cases hb : below with
    | none => simp [hb] at h
    | some walk => exact ⟨walk, rfl, by simpa [hb] using h⟩

end NemuPriv
