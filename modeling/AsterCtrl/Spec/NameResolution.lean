import AsterCtrl.ForStd.List
import AsterCtrl.Native.NameResolver
import Mathlib.Data.List.Nodup

/-!
# Names and their resolution

A name is an optional slash in front of segments that are joined by slashes (`IsName`); the loop of
`ValidName` accepts just these.  `Resolve` gives the name as it is expanded by the namespace, or the
target of the one remap with the expanded name as its source; the target is not looked up again.

## Key results

- `validName_iff`: the loop decides the grammar
- `NameResolver.validate_eq_ok_iff`: what is accepted as a namespace and remaps
- `NameResolver.resolve_cases`: what `Resolve` gives
- `name_resolution`
-/

namespace AsterCtrl

open List

/-! ## The grammar -/

/-- A segment of a name. -/
def IsSegment (part : List UInt8) : Prop :=
  part ≠ [] ∧ part ≠ [dot] ∧ part ≠ [dot, dot] ∧ ∀ c ∈ part, isNameChar c = true

/-- An optional slash and one or more segments with single slashes between them. -/
def IsName (name : List UInt8) : Prop :=
  ∃ (absolute : Bool) (parts : List (List UInt8)), parts ≠ [] ∧ (∀ part ∈ parts, IsSegment part) ∧
    name = (if absolute then [slash] else []) ++ [slash].intercalate parts

def IsAbsolute (name : List UInt8) : Prop := name.head? = some slash

theorem validPart_iff (part : List UInt8) : validPart part = true ↔ IsSegment part := by
  unfold validPart IsSegment
  split
  · rename_i h
    rcases h with h | h | h <;> simp [h]
  · rename_i h
    rw [not_or, not_or] at h
    simp [h]

theorem IsSegment.slash_notMem {part : List UInt8} (h : IsSegment part) :
    slash ∉ part := fun hmem =>
  absurd (h.2.2.2 slash hmem) (by decide)

/-- The body of a name neither begins nor ends with a slash. -/
theorem ends_of_intercalate {parts : List (List UInt8)} (hne : parts ≠ [])
    (hparts : ∀ part ∈ parts, IsSegment part) :
    [slash].intercalate parts ≠ [] ∧ ([slash].intercalate parts).head? ≠ some slash ∧
      ([slash].intercalate parts).getLast? ≠ some slash := by
  have hpart : ∀ part ∈ parts, part ≠ [] ∧ part.head? ≠ some slash ∧ part.getLast? ≠ some slash := by
    intro part hmem
    have hsegment := hparts part hmem
    exact ⟨hsegment.1, fun h => hsegment.slash_notMem (mem_of_head? h),
      fun h => hsegment.slash_notMem (mem_of_getLast? h)⟩
  induction parts with
  | nil => exact absurd rfl hne
  | cons part parts ih =>
    obtain ⟨hfirst, hhead, hlast⟩ := hpart part mem_cons_self
    by_cases hrest : parts = []
    · subst hrest
      rw [intercalate_singleton]
      exact ⟨hfirst, hhead, hlast⟩
    · obtain ⟨hbody, -, hend⟩ := ih hrest (fun p hp => hparts p (mem_cons_of_mem _ hp))
        fun p hp => hpart p (mem_cons_of_mem _ hp)
      rw [show part :: parts = [part] ++ parts from rfl,
        intercalate_append (cons_ne_nil _ _) hrest, intercalate_singleton]
      refine ⟨by simp, ?_, ?_⟩
      · rwa [append_assoc, List.head?_append_of_ne_nil _ hfirst]
      · rwa [List.getLast?_append_of_ne_nil _ hbody]

variable {name : List UInt8}

theorem IsName.ne_nil (h : IsName name) : name ≠ [] := by
  obtain ⟨absolute, parts, hne, hparts, rfl⟩ := h
  exact append_ne_nil_of_right_ne_nil _ (ends_of_intercalate hne hparts).1

theorem IsName.getLast?_ne (h : IsName name) : name.getLast? ≠ some slash := by
  obtain ⟨absolute, parts, hne, hparts, rfl⟩ := h
  obtain ⟨hbody, -, hlast⟩ := ends_of_intercalate hne hparts
  rwa [List.getLast?_append_of_ne_nil _ hbody]

/-! ## The check -/

/-- The loop checks the parts between the slashes; an empty one at the end would be missed. -/
theorem validParts_eq (hne : name ≠ []) (hlast : name.getLast? ≠ some slash) (fuel : Nat)
    (hfuel : name.length ≤ fuel) :
    validParts fuel name hfuel = (name.splitOn slash).all validPart := by
  induction fuel generalizing name with
  | zero => exact absurd (length_eq_zero_iff.mp (Nat.le_zero.mp hfuel)) hne
  | succ fuel ih =>
    cases name with
    | nil => exact absurd rfl hne
    | cons c name =>
      unfold validParts
      split
      · rename_i hnone
        rw [List.findIdx?_eq_none_iff] at hnone
        have hslash : slash ∉ c :: name := fun hmem => by simpa using hnone slash hmem
        rw [splitOn_eq_singleton hslash]
        simp
      · rename_i index hindex
        obtain ⟨hlt, hat, hbefore⟩ := List.findIdx?_eq_some_iff_getElem.mp hindex
        have hsplit : c :: name = (c :: name).take index ++ slash :: name.drop index := by
          have := eq_take_append_cons_drop (List.getElem?_eq_getElem hlt)
          rwa [of_decide_eq_true hat, drop_succ_cons] at this
        have hslash : slash ∉ (c :: name).take index := by
          intro hmem
          obtain ⟨j, hj, hget⟩ := getElem_of_mem hmem
          rw [length_take] at hj
          rw [getElem_take] at hget
          exact hbefore j (by omega) (decide_eq_true hget)
        have hparts : (c :: name).splitOn slash =
            (c :: name).take index :: (name.drop index).splitOn slash := by
          conv_lhs => rw [hsplit]
          exact splitOn_append_cons_self_of_not_mem hslash _
        have hrest : name.drop index ≠ [] := by
          intro hnil
          rw [hsplit, hnil, List.getLast?_append_of_ne_nil _ (cons_ne_nil _ _)] at hlast
          exact hlast rfl
        have hrestLast : (name.drop index).getLast? ≠ some slash := by
          rwa [hsplit, List.getLast?_append_of_ne_nil _ (cons_ne_nil _ _),
            List.getLast?_cons_of_ne_nil hrest] at hlast
        rw [ih hrest hrestLast, hparts, all_cons]
        cases validPart ((c :: name).take index) <;> simp

theorem validName_iff (name : List UInt8) : validName name = true ↔ IsName name := by
  constructor
  · intro h
    unfold validName at h
    split at h
    · cases h
    rename_i hends
    obtain ⟨hne, hlast⟩ := not_or.mp hends
    dsimp only at h
    -- the body behind the slash
    obtain ⟨body, hbody, hname⟩ : ∃ body, (if name.head? = some slash then name.drop 1 else name) =
        body ∧ name = (if decide (name.head? = some slash) then [slash] else []) ++ body := by
      refine ⟨_, rfl, ?_⟩
      by_cases hhead : name.head? = some slash
      · obtain ⟨rest, rfl⟩ := List.head?_eq_some_iff.mp hhead
        simp
      · simp [hhead]
    simp only [hbody] at h
    have hbodyNe : body ≠ [] := by
      rintro rfl
      rw [append_nil] at hname
      split at hname
      · exact hlast (by rw [hname]; rfl)
      · exact hne hname
    have hbodyLast : body.getLast? ≠ some slash := by
      rwa [hname, List.getLast?_append_of_ne_nil _ hbodyNe] at hlast
    rw [validParts_eq hbodyNe hbodyLast, all_eq_true] at h
    refine ⟨decide (name.head? = some slash), body.splitOn slash, splitOn_ne_nil _ _,
      fun part hpart => (validPart_iff part).mp (h part hpart), ?_⟩
    rw [intercalate_splitOn]
    exact hname
  · intro h
    have hends : ¬ (name = [] ∨ name.getLast? = some slash) := not_or.mpr ⟨h.ne_nil, h.getLast?_ne⟩
    obtain ⟨absolute, parts, hne, hparts, hname⟩ := h
    obtain ⟨hbody, hhead, hlast⟩ := ends_of_intercalate hne hparts
    have hdrop : (if name.head? = some slash then name.drop 1 else name) =
        [slash].intercalate parts := by
      rw [hname]
      cases absolute
      · simp [hhead]
      · simp
    unfold validName
    rw [if_neg hends]
    simp only [hdrop]
    rw [validParts_eq hbody hlast, splitOn_intercalate slash (fun part hpart => (hparts part
      hpart).slash_notMem) hne, all_eq_true]
    exact fun part hpart => (validPart_iff part).mpr (hparts part hpart)

/-! ## Configuration -/

/-- A namespace that the resolver accepts; the empty one stands for the root. -/
def IsNamespace (nameSpace : List UInt8) : Prop :=
  nameSpace = [] ∨ nameSpace = [slash] ∨ IsName nameSpace ∧ IsAbsolute nameSpace

/-- Remaps that the resolver accepts. -/
structure AreRemaps (remaps : List NameRemap) : Prop where
  source : ∀ rule ∈ remaps, IsName rule.source ∧ IsAbsolute rule.source
  target : ∀ rule ∈ remaps, IsName rule.target ∧ IsAbsolute rule.target
  nodup : (remaps.map NameRemap.source).Nodup

theorem areRemaps_cons {rule : NameRemap} {remaps : List NameRemap} :
    AreRemaps (rule :: remaps) ↔ (IsName rule.source ∧ IsAbsolute rule.source) ∧
      (IsName rule.target ∧ IsAbsolute rule.target) ∧
      (∀ later ∈ remaps, later.source ≠ rule.source) ∧ AreRemaps remaps := by
  have hfields : ∀ remaps, AreRemaps remaps ↔
      (∀ rule ∈ remaps, IsName rule.source ∧ IsAbsolute rule.source) ∧
      (∀ rule ∈ remaps, IsName rule.target ∧ IsAbsolute rule.target) ∧
      (remaps.map NameRemap.source).Nodup :=
    fun _ => ⟨fun h => ⟨h.source, h.target, h.nodup⟩, fun h => ⟨h.1, h.2.1, h.2.2⟩⟩
  rw [hfields, hfields, map_cons, nodup_cons, forall_mem_cons, forall_mem_cons]
  simp only [mem_map, not_exists, not_and]
  tauto

namespace NameResolver

variable {resolver : NameResolver}

theorem validateRemaps_eq_ok_iff (before remaps : List NameRemap) :
    validateRemaps before remaps = .ok ↔ AreRemaps remaps ∧
      ∀ rule ∈ remaps, ∀ earlier ∈ before, earlier.source ≠ rule.source := by
  induction remaps generalizing before with
  | nil => simp [validateRemaps, AreRemaps.mk]
  | cons rule remaps ih =>
    unfold validateRemaps
    rw [areRemaps_cons]
    split
    · rename_i hinvalid
      simp only [← Bool.not_eq_true, validName_iff] at hinvalid
      unfold IsAbsolute
      simp only [reduceCtorEq, false_iff]
      tauto
    · rename_i hvalid
      simp only [not_or, Bool.not_eq_false, validName_iff, not_not] at hvalid
      split
      · rename_i hexists
        simp only [any_eq_true, decide_eq_true_eq] at hexists
        obtain ⟨earlier, hmem, heq⟩ := hexists
        refine ⟨nofun, fun h => absurd heq ?_⟩
        exact h.2 rule mem_cons_self earlier hmem
      · rename_i hfresh
        simp only [any_eq_true, decide_eq_true_eq, not_exists, not_and] at hfresh
        rw [ih]
        unfold IsAbsolute
        simp only [mem_append, mem_singleton, forall_mem_cons]
        grind

theorem validate_eq_ok_iff :
    resolver.validate = .ok ↔ IsNamespace resolver.given ∧ AreRemaps resolver.remaps := by
  have hspace : (resolver.nameSpace ≠ [slash] ∧ (validName resolver.nameSpace = false ∨
      resolver.nameSpace.head? ≠ some slash)) ↔ ¬ IsNamespace resolver.given := by
    have hvalid := validName_iff resolver.nameSpace
    unfold IsNamespace
    by_cases hempty : resolver.given = []
    · simp [nameSpace, hempty]
    · have hgiven : resolver.nameSpace = resolver.given := if_neg hempty
      rw [hgiven] at hvalid ⊢
      rw [← Bool.not_eq_true, hvalid, ← not_and_or, not_or, not_or]
      exact ⟨fun h => ⟨hempty, h⟩, fun h => h.2⟩
  have hremaps := validateRemaps_eq_ok_iff [] resolver.remaps
  unfold validate
  split
  · rename_i hbad
    exact ⟨nofun, fun h => absurd h.1 (hspace.mp hbad)⟩
  · rename_i hgood
    rw [hspace, not_not] at hgood
    rw [hremaps]
    exact ⟨fun h => ⟨hgood, h.1⟩, fun h => ⟨h.2, nofun⟩⟩

/-- The checks of the configuration never ask for storage. -/
theorem validate_ne_capacityExceeded : resolver.validate ≠ .capacityExceeded := by
  have hloop : ∀ before remaps, validateRemaps before remaps ≠ .capacityExceeded := by
    intro before remaps
    induction remaps generalizing before with
    | nil => exact nofun
    | cons rule remaps ih =>
      unfold validateRemaps
      split
      · exact nofun
      · split
        · exact nofun
        · exact ih _
  unfold validate
  split
  · exact nofun
  · exact hloop _ _

/-! ## Expansion -/

/-- The name behind the namespace, unless it is absolute. -/
def expand (resolver : NameResolver) (name : List UInt8) : List UInt8 :=
  if name.head? = some slash then name
  else if resolver.nameSpace = [slash] then slash :: name
  else resolver.nameSpace ++ slash :: name

theorem length_expand_le (name : List UInt8) :
    (resolver.expand name).length ≤ resolver.given.length + name.length + 1 := by
  unfold expand nameSpace
  split_ifs <;> grind

/-- A name that is not absolute has no slash in front of its segments. -/
theorem parts_of_not_isAbsolute (h : IsName name) (hrelative : ¬ IsAbsolute name) :
    ∃ parts, parts ≠ [] ∧ (∀ part ∈ parts, IsSegment part) ∧ name = [slash].intercalate parts := by
  obtain ⟨absolute, parts, hne, hparts, rfl⟩ := h
  cases absolute with
  | false => exact ⟨parts, hne, hparts, rfl⟩
  | true => exact absurd rfl hrelative

theorem parts_of_isAbsolute (h : IsName name) (habsolute : IsAbsolute name) :
    ∃ parts, parts ≠ [] ∧ (∀ part ∈ parts, IsSegment part) ∧
      name = slash :: [slash].intercalate parts := by
  obtain ⟨absolute, parts, hne, hparts, rfl⟩ := h
  cases absolute with
  | true => exact ⟨parts, hne, hparts, rfl⟩
  | false => exact absurd habsolute (ends_of_intercalate hne hparts).2.1

/-- A namespace other than the root is an absolute name. -/
theorem isName_nameSpace (hspace : IsNamespace resolver.given)
    (hroot : resolver.nameSpace ≠ [slash]) :
    IsName resolver.nameSpace ∧ IsAbsolute resolver.nameSpace := by
  unfold nameSpace at hroot ⊢
  split at hroot
  · exact absurd rfl hroot
  · rename_i hempty
    rw [if_neg hempty]
    exact (hspace.resolve_left hempty).resolve_left hroot

/-- An expanded name is an absolute name. -/
theorem isName_expand (hspace : IsNamespace resolver.given) (h : IsName name) :
    IsName (resolver.expand name) ∧ IsAbsolute (resolver.expand name) := by
  unfold expand
  split
  · rename_i habsolute
    exact ⟨h, habsolute⟩
  rename_i hrelative
  obtain ⟨parts, hne, hparts, rfl⟩ := parts_of_not_isAbsolute h hrelative
  split
  · exact ⟨⟨true, parts, hne, hparts, rfl⟩, rfl⟩
  rename_i hroot
  -- the segments of the namespace come first
  obtain ⟨hname, habsolute⟩ := isName_nameSpace hspace hroot
  obtain ⟨before, hbefore, hsegments, heq⟩ := parts_of_isAbsolute hname habsolute
  rw [heq]
  refine ⟨⟨true, before ++ parts, append_ne_nil_of_left_ne_nil hbefore _, ?_, ?_⟩, rfl⟩
  · exact forall_mem_append.mpr ⟨hsegments, hparts⟩
  · rw [intercalate_append hbefore hne]
    simp

/-! ## Resolution -/

theorem copyTo_append (front rest : List UInt8) {offset : Nat} (hoffset : offset = front.length)
    (bytes : List UInt8) :
    copyTo (front ++ rest) offset bytes = front ++ bytes ++ rest.drop bytes.length := by
  subst hoffset
  rw [copyTo, take_left, drop_length_add_append]

/-- What `Resolve` puts in front of a name. -/
theorem expand_eq (hspace : IsNamespace resolver.given) {name start : List UInt8}
    (hstart : start = if name.head? = some slash then [] else resolver.nameSpace) :
    resolver.expand name =
      start ++ (if start ≠ [] ∧ start.getLast? ≠ some slash then [slash] else []) ++ name := by
  unfold expand
  by_cases habsolute : name.head? = some slash
  · rw [if_pos habsolute, hstart, if_pos habsolute]
    simp
  rw [if_neg habsolute, hstart, if_neg habsolute]
  by_cases hroot : resolver.nameSpace = [slash]
  · rw [if_pos hroot, hroot]
    simp
  · rw [if_neg hroot]
    have hname := (isName_nameSpace hspace hroot).1
    rw [if_pos ⟨hname.ne_nil, hname.getLast?_ne⟩]
    simp

/-- What a name stands for: the target of the remap that has the expanded name as its source, or
    the expanded name. -/
def remapped (resolver : NameResolver) (name : List UInt8) : List UInt8 :=
  match resolver.remaps.find? fun rule => resolver.expand name = rule.source with
  | some rule => rule.target
  | none => resolver.expand name

/-- The storage that a name needs: for the expanded name, and for what it stands for. -/
def Fits (resolver : NameResolver) (name storage : List UInt8) : Prop :=
  (resolver.expand name).length ≤ storage.length ∧
    (resolver.remapped name).length ≤ storage.length

/-- `Resolve` either leaves what the name stands for at the front of the storage or fails. -/
theorem resolve_cases (resolver : NameResolver) (name storage : List UInt8) :
    (resolver.validate = .ok ∧ IsName name ∧ resolver.Fits name storage ∧
      ∃ rest, resolver.resolve name storage =
        (.ok (resolver.remapped name).length, resolver.remapped name ++ rest)) ∨
    ∃ status storage', resolver.resolve name storage = (.error status, storage') ∧
      (resolver.Fits name storage →
        status ≠ .capacityExceeded ∧ ¬ (resolver.validate = .ok ∧ IsName name)) := by
  unfold resolve Fits
  dsimp only
  split
  · rename_i hvalid
    exact .inr ⟨_, _, rfl, fun _ => ⟨validate_ne_capacityExceeded, fun h => hvalid h.1⟩⟩
  rename_i hvalid
  rw [Decidable.not_not] at hvalid
  split
  · rename_i hname
    rw [← Bool.not_eq_true, validName_iff] at hname
    exact .inr ⟨_, _, rfl, fun _ => ⟨nofun, fun h => hname h.2⟩⟩
  rename_i hname
  rw [Bool.not_eq_false, validName_iff] at hname
  generalize hstart : (if name.head? = some slash then [] else resolver.nameSpace) = start
  have hexpand := expand_eq (validate_eq_ok_iff.mp hvalid).1 hstart.symm
  generalize hseparator : (if start ≠ [] ∧ start.getLast? ≠ some slash then [slash] else []) =
    separator at hexpand
  have hcount : (if start ≠ [] ∧ start.getLast? ≠ some slash then 1 else 0) = separator.length := by
    rw [← hseparator]
    split <;> rfl
  rw [hcount]
  have hlength : (resolver.expand name).length = start.length + separator.length + name.length := by
    rw [hexpand, length_append, length_append]
  by_cases hshort : storage.length < (resolver.expand name).length
  · rw [if_pos (by omega)]
    exact .inr ⟨_, _, rfl, fun h => absurd h.1 (Nat.not_le.mpr hshort)⟩
  rw [if_neg (by omega)]
  -- the buffer after the three copies
  have hbuffer : copyTo (if separator.length = 1 then
      copyTo (copyTo storage 0 start) start.length [slash] else copyTo storage 0 start)
        (start.length + separator.length) name =
      resolver.expand name ++ storage.drop (resolver.expand name).length := by
    have hfirst : copyTo storage 0 start = start ++ storage.drop start.length := by
      simpa using copyTo_append [] storage rfl start
    have hsecond : (if separator.length = 1 then
        copyTo (copyTo storage 0 start) start.length [slash] else copyTo storage 0 start) =
          start ++ separator ++ storage.drop (start.length + separator.length) := by
      rw [hfirst, ← hseparator]
      split
      · rw [copyTo_append _ _ rfl]
        simp [drop_drop]
      · simp
    rw [hsecond, copyTo_append _ _ (by rw [length_append]), drop_drop, hlength, hexpand]
  rw [hbuffer, ← hlength, take_left]
  have hsize : (resolver.expand name ++ storage.drop (resolver.expand name).length).length =
      storage.length := by
    rw [length_append, length_drop]
    omega
  unfold remapped
  cases resolver.remaps.find? fun rule => decide (resolver.expand name = rule.source) with
  | none => exact .inl ⟨hvalid, hname, ⟨Nat.not_lt.mp hshort, Nat.not_lt.mp hshort⟩, _, rfl⟩
  | some rule =>
    dsimp only
    rw [hsize]
    split
    · rename_i htarget
      exact .inr ⟨_, _, rfl, fun h => absurd h.2 (Nat.not_le.mpr htarget)⟩
    · rename_i htarget
      exact .inl ⟨hvalid, hname, ⟨Nat.not_lt.mp hshort, Nat.not_lt.mp htarget⟩, _,
        congrArg _ (copyTo_append [] _ rfl rule.target)⟩

theorem remapped_of_mem (h : AreRemaps resolver.remaps) {rule : NameRemap}
    (hmem : rule ∈ resolver.remaps) (hsource : rule.source = resolver.expand name) :
    resolver.remapped name = rule.target := by
  unfold remapped
  split
  · rename_i other hfind
    have hother := List.find?_some hfind
    rw [inj_on_of_nodup_map h.nodup (mem_of_find?_eq_some hfind) hmem
      ((of_decide_eq_true hother).symm.trans hsource.symm)]
  · rename_i hfind
    exact absurd (decide_eq_true hsource.symm) (List.find?_eq_none.mp hfind rule hmem)

/-- A name stands for the target of a remap of the expanded name, or for the expanded name. -/
theorem remapped_cases (resolver : NameResolver) (name : List UInt8) :
    (∃ rule ∈ resolver.remaps, rule.source = resolver.expand name ∧
      resolver.remapped name = rule.target) ∨ resolver.remapped name = resolver.expand name := by
  unfold remapped
  split
  · rename_i rule hfind
    have hsource := List.find?_some hfind
    exact .inl ⟨rule, mem_of_find?_eq_some hfind, (of_decide_eq_true hsource).symm, rfl⟩
  · exact .inr rfl

theorem fits_of_targets {name storage : List UInt8}
    (hexpand : (resolver.expand name).length ≤ storage.length)
    (htargets : ∀ rule ∈ resolver.remaps, rule.source = resolver.expand name →
      rule.target.length ≤ storage.length) : resolver.Fits name storage := by
  refine ⟨hexpand, ?_⟩
  rcases remapped_cases resolver name with ⟨rule, hmem, hsource, heq⟩ | heq
  · rw [heq]
    exact htargets rule hmem hsource
  · rwa [heq]

/-- When `Resolve` succeeds. -/
theorem resolve_eq_ok_iff (name storage : List UInt8) :
    (∃ size storage', resolver.resolve name storage = (.ok size, storage')) ↔
      IsNamespace resolver.given ∧ AreRemaps resolver.remaps ∧ IsName name ∧
        (resolver.expand name).length ≤ storage.length ∧
        ∀ rule ∈ resolver.remaps, rule.source = resolver.expand name →
          rule.target.length ≤ storage.length := by
  rcases resolve_cases resolver name storage with
    ⟨hvalid, hname, hfits, rest, hok⟩ | ⟨status, storage', herror, hfits⟩
  · obtain ⟨hspace, hremaps⟩ := validate_eq_ok_iff.mp hvalid
    refine ⟨fun _ => ⟨hspace, hremaps, hname, hfits.1, ?_⟩, fun _ => ⟨_, _, hok⟩⟩
    intro rule hmem hsource
    rw [← remapped_of_mem hremaps hmem hsource]
    exact hfits.2
  · constructor
    · rintro ⟨size, storage', h⟩
      cases herror.symm.trans h
    · rintro ⟨hspace, hremaps, hname, hexpand, htargets⟩
      have hrefused := (hfits (fits_of_targets hexpand htargets)).2
      exact absurd ⟨validate_eq_ok_iff.mpr ⟨hspace, hremaps⟩, hname⟩ hrefused

/-- What `Resolve` gives. -/
theorem output_resolve {name storage storage' : List UInt8} {size : Nat}
    (h : resolver.resolve name storage = (.ok size, storage')) :
    (∀ rule ∈ resolver.remaps, rule.source = resolver.expand name →
      storage'.take size = rule.target) ∧
    ((∀ rule ∈ resolver.remaps, rule.source ≠ resolver.expand name) →
      storage'.take size = resolver.expand name) ∧
    IsName (storage'.take size) ∧ IsAbsolute (storage'.take size) := by
  rcases resolve_cases resolver name storage with
    ⟨hvalid, hname, -, rest, hok⟩ | ⟨status, storage', herror, -⟩
  · obtain ⟨hspace, hremaps⟩ := validate_eq_ok_iff.mp hvalid
    cases hok.symm.trans h
    rw [take_left]
    refine ⟨fun rule => remapped_of_mem hremaps, ?_⟩
    rcases remapped_cases resolver name with ⟨rule, hmem, hsource, heq⟩ | heq
    · rw [heq]
      exact ⟨fun hnone => absurd hsource (hnone rule hmem), hremaps.target rule hmem⟩
    · rw [heq]
      exact ⟨fun _ => rfl, isName_expand hspace hname⟩
  · cases herror.symm.trans h

end NameResolver

/-! ## The storage of an instance -/

namespace NameConfig

/-- The capacity covers what it starts with and every target. -/
theorem le_capacity (config : NameConfig) (requested : List UInt8) :
    config.nameSpace.length + requested.length + 1 ≤ config.capacity requested ∧
      ∀ entry ∈ config.remap, entry.2.length ≤ config.capacity requested := by
  have hfold : ∀ (entries : List (List UInt8 × List UInt8)) (start : Nat),
      start ≤ entries.foldl (fun capacity entry => max capacity entry.2.length) start ∧
        ∀ entry ∈ entries, entry.2.length ≤
          entries.foldl (fun capacity entry => max capacity entry.2.length) start := by
    intro entries
    induction entries with
    | nil => exact fun start => ⟨Nat.le_refl _, nofun⟩
    | cons first entries ih =>
      intro start
      obtain ⟨hstart, hentries⟩ := ih (max start first.2.length)
      refine ⟨Nat.le_trans (Nat.le_max_left _ _) hstart, forall_mem_cons.mpr ⟨?_, hentries⟩⟩
      exact Nat.le_trans (Nat.le_max_right _ _) hstart
  exact hfold config.remap _

end NameConfig

theorem resolveInstanceName_ne_capacityExceeded (config : NameConfig) (requested : List UInt8) :
    resolveInstanceName config requested ≠ .error .capacityExceeded := by
  obtain ⟨hname, htargets⟩ := config.le_capacity requested
  unfold resolveInstanceName
  dsimp only
  generalize hresolver : NameResolver.mk config.nameSpace
    (config.remap.map fun entry => ⟨entry.1, entry.2⟩) = resolver
  -- there is room, so `Resolve` does not ask for more
  have hfits : resolver.Fits requested (List.replicate (config.capacity requested) 0) := by
    have hexpand := resolver.length_expand_le requested
    rw [← hresolver] at hexpand ⊢
    refine NameResolver.fits_of_targets ?_ fun rule hrule _ => ?_
    · rw [length_replicate]
      exact Nat.le_trans hexpand hname
    · obtain ⟨entry, hentry, rfl⟩ := mem_map.mp hrule
      rw [length_replicate]
      exact htargets entry hentry
  rcases resolver.resolve_cases requested (List.replicate (config.capacity requested) 0) with
    ⟨-, -, -, rest, hok⟩ | ⟨status, storage, herror, hrefused⟩
  · rw [hok]
    exact fun h => by cases h
  · rw [herror]
    exact fun h => (hrefused hfits).1 (Except.error.inj h)

/-- Names are checked by their grammar, and resolved to one absolute name: expanded by the namespace
    and, if a remap has the expanded name as its source, replaced by its target. -/
theorem name_resolution :
    (∀ name, validName name = true ↔ IsName name) ∧
    (∀ (resolver : NameResolver) (name storage : List UInt8),
      (∃ size storage', resolver.resolve name storage = (.ok size, storage')) ↔
        IsNamespace resolver.given ∧ AreRemaps resolver.remaps ∧ IsName name ∧
          (resolver.expand name).length ≤ storage.length ∧
          ∀ rule ∈ resolver.remaps, rule.source = resolver.expand name →
            rule.target.length ≤ storage.length) ∧
    (∀ (resolver : NameResolver) (name storage storage' : List UInt8) (size : Nat),
      resolver.resolve name storage = (.ok size, storage') →
        (∀ rule ∈ resolver.remaps, rule.source = resolver.expand name →
          storage'.take size = rule.target) ∧
        ((∀ rule ∈ resolver.remaps, rule.source ≠ resolver.expand name) →
          storage'.take size = resolver.expand name) ∧
        IsName (storage'.take size) ∧ IsAbsolute (storage'.take size)) ∧
    ∀ (config : NameConfig) (requested : List UInt8),
      resolveInstanceName config requested ≠ .error .capacityExceeded :=
  ⟨validName_iff, fun resolver => resolver.resolve_eq_ok_iff,
    fun _ _ _ _ _ => NameResolver.output_resolve, resolveInstanceName_ne_capacityExceeded⟩

end AsterCtrl
