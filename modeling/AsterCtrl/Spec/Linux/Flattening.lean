import AsterCtrl.ForStd.List
import AsterCtrl.Native.Linux.Configuration
import Mathlib.Data.List.Forall2
import Mathlib.Data.List.Nodup

/-!
# Flattened configurations

The values of a configuration are those of the leaves of its tree, each under the keys on the way to
it, joined by dots.  In one mapping no key is there twice, so no leaf is on the way to another one,
and since there are no dots in the keys this is still so when they are joined: no value is dropped,
and no path goes on behind another one.

## Key results

- `regular_of_parseEntries`: what `ParseValues` accepts
- `flattens_parseEntries`: what it makes of it
- `YamlEntries.leaves_unrelated`: no leaf is on the way to another one
- `config_flattening`
-/

namespace AsterCtrl.Linux

open List

variable {ρ : Type}

/-! ## Trees -/

/-- The keys from the root of a tree to one of its leaves, and the leaf. -/
abbrev Leaf := List (List UInt8) × YamlNode

namespace YamlEntries

def keys : YamlEntries → List (Option (List UInt8))
  | .nil => []
  | .cons key _ rest => key.asString :: rest.keys

def values : YamlEntries → List YamlNode
  | .nil => []
  | .cons _ value rest => value :: rest.values

end YamlEntries

mutual

/-- The leaves of a tree that are scalars or null. -/
def YamlNode.leaves : YamlNode → List Leaf
  | .map entries => entries.leaves
  | .null => [([], .null)]
  | .scalar text tag => [([], .scalar text tag)]
  | .undefined | .sequence => []

def YamlEntries.leaves : YamlEntries → List Leaf
  | .nil => []
  | .cons key value rest =>
    value.leaves.map (fun leaf => (key.asString.getD [] :: leaf.1, leaf.2)) ++ rest.leaves

end

mutual

/-- The mappings of a tree with their depths. -/
def YamlNode.mappings (depth : Nat) : YamlNode → List (Nat × YamlEntries)
  | .map entries => (depth, entries) :: entries.mappings depth
  | .undefined | .null | .scalar _ _ | .sequence => []

/-- The mappings below the entries of one at `depth`. -/
def YamlEntries.mappings (depth : Nat) : YamlEntries → List (Nat × YamlEntries)
  | .nil => []
  | .cons _ value rest => value.mappings (depth + 1) ++ rest.mappings depth

end

/-! ## What is accepted -/

/-- A key that is accepted. -/
def IsKey (key : Option (List UInt8)) : Prop := ∃ text, key = some text ∧ text ≠ [] ∧ dot ∉ text

/-- The entries of a mapping that is accepted. -/
structure Regular (entries : YamlEntries) : Prop where
  keys : ∀ key ∈ entries.keys, IsKey key
  nodup : entries.keys.Nodup
  values : ∀ value ∈ entries.values, value ≠ .sequence

/-- One round of the loop that does not fail. -/
theorem parseEntries_cons {reals : Reals ρ} {key value : YamlNode} {rest : YamlEntries}
    {values values' : ConfigValues ρ} {seen : List (List UInt8)} {above : List UInt8} {depth : Nat}
    (h : parseEntries reals (.cons key value rest) values seen above depth = .ok values') :
    ∃ text, key.asString = some text ∧ text ≠ [] ∧ dot ∉ text ∧ text ∉ seen ∧
      ∃ between, parseEntries reals rest between (text :: seen) above depth = .ok values' ∧
        ((∃ entries, value = .map entries ∧ depth + 1 ≤ 32 ∧
            parseEntries reals entries values [] (childPath above text) (depth + 1) = .ok between) ∨
          ∃ parsed, parseValue reals value = .ok parsed ∧
            between = values.emplace (childPath above text, parsed)) := by
  unfold parseEntries at h
  split at h
  · cases h
  rename_i text htext
  split at h
  · cases h
  rename_i hkey
  rw [not_or, not_or] at hkey
  refine ⟨text, htext, hkey.1, hkey.2.1, hkey.2.2, ?_⟩
  split at h
  · rename_i entries
    split at h
    · cases h
    · rename_i between hbetween
      unfold parseValues at hbetween
      split at hbetween
      · cases hbetween
      · rename_i hdepth
        exact ⟨between, h, .inl ⟨entries, rfl, Nat.not_lt.mp hdepth, hbetween⟩⟩
  · split at h
    · cases h
    · rename_i parsed hparsed
      exact ⟨_, h, .inr ⟨parsed, hparsed, rfl⟩⟩

theorem ne_sequence_of_parseValue {reals : Reals ρ} {value : YamlNode} {parsed : ConfigValue ρ}
    (h : parseValue reals value = .ok parsed) :
    value = .null ∨ ∃ text tag, value = .scalar text tag := by
  cases value with
  | null => exact .inl rfl
  | scalar text tag => exact .inr ⟨text, tag, rfl⟩
  | _ => cases h

theorem regular_of_parseEntries (reals : Reals ρ) : (entries : YamlEntries) →
    ∀ {values values' : ConfigValues ρ} {seen : List (List UInt8)} {above : List UInt8} {depth : Nat},
      parseEntries reals entries values seen above depth = .ok values' →
      Regular entries ∧ (∀ text ∈ seen, some text ∉ entries.keys) ∧
        ∀ mapping ∈ entries.mappings depth, mapping.1 ≤ 32 ∧ Regular mapping.2
  | .nil, _, _, _, _, _, _ => ⟨⟨nofun, nodup_nil, nofun⟩, nofun, nofun⟩
  | .cons key value rest, _, _, seen, above, depth, h => by
    obtain ⟨text, htext, hne, hdot, hseen, between, hrest, hvalue⟩ := parseEntries_cons h
    obtain ⟨hregular, hkeys, hmappings⟩ := regular_of_parseEntries reals rest hrest
    refine ⟨⟨?_, ?_, ?_⟩, ?_, ?_⟩
    · exact forall_mem_cons.mpr ⟨⟨text, htext, hne, hdot⟩, hregular.keys⟩
    · exact nodup_cons.mpr ⟨htext ▸ hkeys text mem_cons_self, hregular.nodup⟩
    · refine forall_mem_cons.mpr ⟨?_, hregular.values⟩
      rcases hvalue with ⟨entries, rfl, -⟩ | ⟨parsed, hparsed, -⟩
      · exact nofun
      · rintro rfl
        cases hparsed
    · intro other hother hmem
      rcases mem_cons.mp hmem with heq | hmem
      · exact hseen (Option.some.inj (heq.trans htext) ▸ hother)
      · exact hkeys other (mem_cons_of_mem _ hother) hmem
    · intro mapping hmapping
      rcases mem_append.mp hmapping with hin | hin
      · rcases hvalue with ⟨entries, rfl, hdepth, hbetween⟩ | ⟨parsed, hparsed, -⟩
        · obtain ⟨hinner, -, hbelow⟩ := regular_of_parseEntries reals entries hbetween
          rcases mem_cons.mp hin with rfl | hin
          · exact ⟨hdepth, hinner⟩
          · exact hbelow mapping hin
        · rcases ne_sequence_of_parseValue hparsed with rfl | ⟨text, tag, rfl⟩ <;> cases hin
      · exact hmappings mapping hin

/-! ## What becomes of the leaves -/

/-- The entry of a leaf below `above`: its keys joined by dots, and its value. -/
def IsEntry (reals : Reals ρ) (above : List UInt8) (leaf : Leaf)
    (entry : List UInt8 × ConfigValue ρ) : Prop :=
  entry.1 = childPath above ([dot].intercalate leaf.1) ∧ parseValue reals leaf.2 = .ok entry.2

theorem YamlEntries.ne_nil_of_mem_leaves : (entries : YamlEntries) →
    ∀ leaf ∈ entries.leaves, leaf.1 ≠ []
  | .nil, _, h => nomatch h
  | .cons key value rest, leaf, h => by
    rcases mem_append.mp h with hin | hin
    · obtain ⟨below, -, rfl⟩ := mem_map.mp hin
      exact cons_ne_nil _ _
    · exact ne_nil_of_mem_leaves rest leaf hin

/-- A path in two steps. -/
theorem childPath_childPath {above key : List UInt8} (hkey : key ≠ []) {path : List (List UInt8)}
    (hpath : path ≠ []) :
    childPath (childPath above key) ([dot].intercalate path) =
      childPath above ([dot].intercalate (key :: path)) := by
  have hne : childPath above key ≠ [] := append_ne_nil_of_right_ne_nil _ hkey
  rw [childPath, if_neg hne, show key :: path = [key] ++ path from rfl, intercalate_append
    (cons_ne_nil _ _) hpath, intercalate_singleton, childPath, childPath]
  simp only [append_assoc]

/-- The loop puts an entry for every leaf into the map, in the order of the tree. -/
theorem flattens_parseEntries (reals : Reals ρ) : (entries : YamlEntries) →
    ∀ {values values' : ConfigValues ρ} {seen : List (List UInt8)} {above : List UInt8} {depth : Nat},
      parseEntries reals entries values seen above depth = .ok values' →
      ∃ new, List.Forall₂ (IsEntry reals above) entries.leaves new ∧
        values' = new.foldl ConfigValues.emplace values
  | .nil, _, _, _, _, _, h => ⟨[], .nil, (Except.ok.inj h).symm⟩
  | .cons key value rest, values, _, _, above, depth, h => by
    obtain ⟨text, htext, hne, -, -, between, hrest, hvalue⟩ := parseEntries_cons h
    obtain ⟨later, hlater, rfl⟩ := flattens_parseEntries reals rest hrest
    -- the leaves below this entry
    obtain ⟨first, hfirst, rfl⟩ : ∃ first, List.Forall₂ (IsEntry reals above)
        (value.leaves.map fun leaf => (key.asString.getD [] :: leaf.1, leaf.2)) first ∧
          between = first.foldl ConfigValues.emplace values := by
      rw [htext, Option.getD_some]
      rcases hvalue with ⟨entries, rfl, -, hbetween⟩ | ⟨parsed, hparsed, rfl⟩
      · obtain ⟨first, hfirst, rfl⟩ := flattens_parseEntries reals entries hbetween
        refine ⟨first, List.forall₂_map_left_iff.mpr ?_, rfl⟩
        refine ((List.forall₂_and_left _ _).mpr ⟨entries.ne_nil_of_mem_leaves, hfirst⟩).imp ?_
        rintro leaf entry ⟨hleaf, hpath, hparsed⟩
        exact ⟨hpath.trans (childPath_childPath hne hleaf), hparsed⟩
      · have hentry : IsEntry reals above ([text], value) (childPath above text, parsed) :=
          ⟨by rw [intercalate_singleton], hparsed⟩
        refine ⟨[(childPath above text, parsed)], ?_, rfl⟩
        rcases ne_sequence_of_parseValue hparsed with rfl | ⟨text, tag, rfl⟩ <;>
          exact .cons hentry .nil
    exact ⟨first ++ later, rel_append hfirst hlater, (foldl_append ..).symm⟩

/-! ## No leaf is on the way to another one -/

/-- Neither path goes on behind the other. -/
def Unrelated (path path' : List (List UInt8)) : Prop := ¬ path <+: path' ∧ ¬ path' <+: path

theorem YamlEntries.head_of_mem_leaves : (entries : YamlEntries) →
    (hkeys : ∀ key ∈ entries.keys, IsKey key) → ∀ leaf ∈ entries.leaves,
      ∃ key path, leaf.1 = key :: path ∧ some key ∈ entries.keys
  | .nil, _, _, h => nomatch h
  | .cons key value rest, hkeys, leaf, h => by
    rcases mem_append.mp h with hin | hin
    · obtain ⟨below, -, rfl⟩ := mem_map.mp hin
      obtain ⟨text, htext, -⟩ := hkeys _ mem_cons_self
      refine ⟨_, _, rfl, ?_⟩
      rw [htext, Option.getD_some, ← htext]
      exact mem_cons_self
    · obtain ⟨text, path, heq, hmem⟩ := head_of_mem_leaves rest
        (fun other hother => hkeys other (mem_cons_of_mem _ hother)) leaf hin
      exact ⟨text, path, heq, mem_cons_of_mem _ hmem⟩

theorem YamlEntries.leaves_unrelated : (entries : YamlEntries) → ∀ {depth : Nat},
    Regular entries → (∀ mapping ∈ entries.mappings depth, Regular mapping.2) →
    (entries.leaves.map Prod.fst).Pairwise Unrelated
  | .nil, _, _, _ => List.Pairwise.nil
  | .cons key value rest, depth, hregular, hmappings => by
    have hrest : Regular rest :=
      ⟨fun other hother => hregular.keys other (mem_cons_of_mem _ hother),
        (nodup_cons.mp hregular.nodup).2,
        fun other hother => hregular.values other (mem_cons_of_mem _ hother)⟩
    have hlater := leaves_unrelated rest hrest fun mapping hmapping =>
      hmappings mapping (mem_append_right _ hmapping)
    rw [YamlEntries.leaves, map_append, pairwise_append]
    refine ⟨?_, hlater, ?_⟩
    · -- below one key
      have hbelow : (value.leaves.map Prod.fst).Pairwise Unrelated := by
        cases value with
        | map entries =>
          have hin : ∀ mapping ∈ (YamlNode.map entries).mappings (depth + 1), Regular mapping.2 :=
            fun mapping hmapping => hmappings mapping (mem_append_left _ hmapping)
          exact leaves_unrelated entries (hin _ mem_cons_self) fun mapping hmapping =>
            hin mapping (mem_cons_of_mem _ hmapping)
        | null => exact pairwise_singleton _ _
        | scalar text tag => exact pairwise_singleton _ _
        | undefined => exact List.Pairwise.nil
        | sequence => exact List.Pairwise.nil
      rw [map_map, pairwise_map] at *
      refine hbelow.imp fun hne => ⟨fun h => hne.1 ?_, fun h => hne.2 ?_⟩
      · exact (cons_prefix_cons.mp h).2
      · exact (cons_prefix_cons.mp h).2
    · -- below different keys
      intro path hpath path' hpath'
      obtain ⟨leaf, hleaf, rfl⟩ := mem_map.mp hpath
      obtain ⟨leaf', hleaf', rfl⟩ := mem_map.mp hpath'
      obtain ⟨below, -, rfl⟩ := mem_map.mp hleaf
      obtain ⟨text', path', heq', hmem'⟩ := rest.head_of_mem_leaves hrest.keys leaf' hleaf'
      obtain ⟨text, htext, -⟩ := hregular.keys _ mem_cons_self
      have hne : text ≠ text' := by
        rintro rfl
        exact (nodup_cons.mp hregular.nodup).1 (htext ▸ hmem')
      rw [heq', htext, Option.getD_some]
      refine ⟨fun h => hne (cons_prefix_cons.mp h).1, fun h => ?_⟩
      exact hne (cons_prefix_cons.mp h).1.symm

/-- The keys on the way to a leaf have no dots. -/
theorem YamlEntries.dot_notMem_of_mem_leaves : (entries : YamlEntries) → ∀ {depth : Nat},
    Regular entries → (∀ mapping ∈ entries.mappings depth, Regular mapping.2) →
    ∀ leaf ∈ entries.leaves, ∀ key ∈ leaf.1, dot ∉ key
  | .nil, _, _, _, _, h => nomatch h
  | .cons key value rest, depth, hregular, hmappings, leaf, h => by
    rcases mem_append.mp h with hin | hin
    · obtain ⟨below, hbelow, rfl⟩ := mem_map.mp hin
      obtain ⟨text, htext, -, hdot⟩ := hregular.keys _ mem_cons_self
      rw [htext, Option.getD_some]
      refine forall_mem_cons.mpr ⟨hdot, ?_⟩
      cases value with
      | map entries =>
        have hall : ∀ mapping ∈ (YamlNode.map entries).mappings (depth + 1), Regular mapping.2 :=
          fun mapping hmapping => hmappings mapping (mem_append_left _ hmapping)
        exact dot_notMem_of_mem_leaves entries (hall _ mem_cons_self)
          (fun mapping hmapping => hall mapping (mem_cons_of_mem _ hmapping)) below hbelow
      | null =>
        obtain rfl := mem_singleton.mp hbelow
        exact nofun
      | scalar text tag =>
        obtain rfl := mem_singleton.mp hbelow
        exact nofun
      | undefined => cases hbelow
      | sequence => cases hbelow
    · refine dot_notMem_of_mem_leaves rest ⟨fun other hother =>
        hregular.keys other (mem_cons_of_mem _ hother),
        (nodup_cons.mp hregular.nodup).2,
        fun other hother => hregular.values other (mem_cons_of_mem _ hother)⟩
        (fun mapping hmapping => hmappings mapping (mem_append_right _ hmapping)) leaf hin

/-! ## Joined paths -/

/-- A joined path that goes on behind another one has the keys of that one first. -/
theorem isPrefix_of_joined {path path' : List (List UInt8)} (hne : path ≠ []) (hne' : path' ≠ [])
    (hdot : ∀ key ∈ path, dot ∉ key) (hdot' : ∀ key ∈ path', dot ∉ key)
    (h : [dot].intercalate path ++ [dot] <+: [dot].intercalate path') : path <+: path' := by
  obtain ⟨rest, hrest⟩ := h
  refine ⟨rest.splitOn dot, ?_⟩
  rw [← splitOn_intercalate dot hdot' hne', ← hrest, append_assoc, singleton_append,
    splitOn_append_cons_self, splitOn_intercalate dot hdot hne]

theorem joined_injective {path path' : List (List UInt8)} (hne : path ≠ []) (hne' : path' ≠ [])
    (hdot : ∀ key ∈ path, dot ∉ key) (hdot' : ∀ key ∈ path', dot ∉ key)
    (h : [dot].intercalate path = [dot].intercalate path') : path = path' := by
  rw [← splitOn_intercalate dot hdot hne, h, splitOn_intercalate dot hdot' hne']

/-- Entries with different keys are all kept. -/
theorem foldl_emplace {new values : ConfigValues ρ} (h : ((values ++ new).map Prod.fst).Nodup) :
    new.foldl ConfigValues.emplace values = values ++ new := by
  induction new generalizing values with
  | nil => simp
  | cons entry new ih =>
    have hfresh : ¬ (values.any fun other => decide (other.1 = entry.1)) = true := by
      intro hany
      obtain ⟨other, hother, heq⟩ := any_eq_true.mp hany
      rw [map_append, nodup_append] at h
      exact h.2.2 other.1 (mem_map_of_mem hother) entry.1 (by simp) (of_decide_eq_true heq)
    rw [foldl_cons, ConfigValues.emplace, if_neg hfresh, ih (by simpa using h)]
    simp

/-- The joined keys of the leaves of a mapping that is accepted. -/
theorem YamlEntries.joined_leaves {entries : YamlEntries} {depth : Nat} (hregular : Regular entries)
    (hmappings : ∀ mapping ∈ entries.mappings depth, Regular mapping.2) :
    (entries.leaves.map fun leaf => [dot].intercalate leaf.1).Nodup ∧
      ∀ leaf ∈ entries.leaves, ∀ leaf' ∈ entries.leaves,
        ¬ [dot].intercalate leaf.1 ++ [dot] <+: [dot].intercalate leaf'.1 := by
  have hunrelated := entries.leaves_unrelated hregular hmappings
  have hdot := entries.dot_notMem_of_mem_leaves hregular hmappings
  have hne := entries.ne_nil_of_mem_leaves
  constructor
  · rw [List.Nodup, pairwise_map]
    rw [pairwise_map] at hunrelated
    refine hunrelated.imp_of_mem fun {leaf leaf'} hleaf hleaf' hpaths heq => hpaths.1 ?_
    have hpath := joined_injective (hne leaf hleaf) (hne leaf' hleaf') (hdot leaf hleaf)
      (hdot leaf' hleaf') heq
    exact hpath ▸ prefix_rfl
  · intro leaf hleaf leaf' hleaf' hjoined
    have hpath := isPrefix_of_joined (hne leaf hleaf) (hne leaf' hleaf') (hdot leaf hleaf)
      (hdot leaf' hleaf') hjoined
    by_cases heq : leaf.1 = leaf'.1
    · have := hjoined.length_le
      rw [heq, length_append, length_singleton] at this
      omega
    · have : Std.Symm Unrelated := ⟨fun _ _ h => ⟨h.2, h.1⟩⟩
      exact (hunrelated.forall (mem_map_of_mem hleaf) (mem_map_of_mem hleaf') heq).1 hpath

/-- A configuration that is accepted has one value for each leaf that is a scalar or null, under the
    joined keys of the leaf; the joined keys are all different, and none goes on behind another one.
    Trees with keys that are empty, have dots or are there twice, with sequences or too many levels
    are refused. -/
theorem config_flattening (reals : Reals ρ) (node : YamlNode) :
    (∀ values, parseValues reals node [] [] 0 = .ok values →
      List.Forall₂ (fun leaf entry => entry.1 = [dot].intercalate leaf.1 ∧
        parseValue reals leaf.2 = .ok entry.2) node.leaves values ∧
      (values.map Prod.fst).Nodup ∧
      ∀ entry ∈ values, ∀ other ∈ values, ¬ entry.1 ++ [dot] <+: other.1) ∧
    ((node = .sequence ∨ ∃ mapping ∈ node.mappings 0, some [] ∈ mapping.2.keys ∨
        (∃ key, some key ∈ mapping.2.keys ∧ dot ∈ key) ∨ ¬ mapping.2.keys.Nodup ∨
        .sequence ∈ mapping.2.values ∨ mapping.1 > 32) →
      ∃ error, parseValues reals node [] [] 0 = .error error) := by
  cases node with
  | undefined =>
    constructor
    · intro values h
      obtain rfl := Except.ok.inj h
      exact ⟨.nil, List.nodup_nil, nofun⟩
    · rintro (h | ⟨mapping, hmapping, -⟩)
      · cases h
      · cases hmapping
  | null => exact ⟨nofun, fun _ => ⟨_, rfl⟩⟩
  | scalar text tag => exact ⟨nofun, fun _ => ⟨_, rfl⟩⟩
  | sequence => exact ⟨nofun, fun _ => ⟨_, rfl⟩⟩
  | map entries =>
    have hparse : parseValues reals (.map entries) [] [] 0 =
        parseEntries reals entries [] [] [] 0 := by
      rw [parseValues, if_neg (by decide)]
    rw [hparse]
    constructor
    · intro values hvalues
      obtain ⟨hregular, -, hmappings⟩ := regular_of_parseEntries reals entries hvalues
      obtain ⟨hnodup, hrelated⟩ := YamlEntries.joined_leaves hregular fun mapping hmapping =>
        (hmappings mapping hmapping).2
      obtain ⟨new, hnew, rfl⟩ := flattens_parseEntries reals entries hvalues
      have hpaths : new.map Prod.fst = entries.leaves.map fun leaf => [dot].intercalate leaf.1 := by
        rw [← List.forall₂_eq_eq_eq, List.forall₂_map_left_iff, List.forall₂_map_right_iff]
        exact hnew.flip.imp fun _ _ h => h.1
      have hkept : new.foldl ConfigValues.emplace [] = new := foldl_emplace (by rwa [List.nil_append, hpaths])
      rw [hkept]
      refine ⟨hnew, hpaths ▸ hnodup, fun entry hentry other hother => ?_⟩
      have hleaf := List.mem_map_of_mem (f := Prod.fst) hentry
      have hleaf' := List.mem_map_of_mem (f := Prod.fst) hother
      rw [hpaths] at hleaf hleaf'
      obtain ⟨leaf, hleaf, heq⟩ := List.mem_map.mp hleaf
      obtain ⟨leaf', hleaf', heq'⟩ := List.mem_map.mp hleaf'
      rw [← heq, ← heq']
      exact hrelated leaf hleaf leaf' hleaf'
    · rintro (h | ⟨mapping, hmapping, hdefect⟩)
      · cases h
      cases hresult : parseEntries reals entries [] [] [] 0 with
      | error error => exact ⟨error, rfl⟩
      | ok values =>
        exfalso
        obtain ⟨hregular, -, hmappings⟩ := regular_of_parseEntries reals entries hresult
        obtain ⟨hdepth, hmap⟩ : mapping.1 ≤ 32 ∧ Regular mapping.2 := by
          rcases List.mem_cons.mp hmapping with rfl | hin
          · exact ⟨Nat.zero_le _, hregular⟩
          · exact hmappings mapping hin
        rcases hdefect with hempty | ⟨key, hkey, hdot⟩ | hrepeated | hsequence | hdeep
        · obtain ⟨text, htext, hne, -⟩ := hmap.keys _ hempty
          exact hne (Option.some.inj htext).symm
        · obtain ⟨text, htext, -, hnot⟩ := hmap.keys _ hkey
          exact hnot (Option.some.inj htext ▸ hdot)
        · exact hrepeated hmap.nodup
        · exact hmap.values _ hsequence rfl
        · omega

end AsterCtrl.Linux
