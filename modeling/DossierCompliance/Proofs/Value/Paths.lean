import DossierCompliance.Value.Path
import Mathlib.Tactic

/-!
Segments of a path. A path is cut at its dots in one way only: its segments
hold no dot, and joined by dots they give the path back. A path is malformed
when one of them is empty, the empty path among others.
-/

namespace DossierCompliance

namespace Text

variable {separator : Char}

theorem splitChars_eq_splitOn (separator : Char) (cs : List Char) :
    splitChars separator cs = cs.splitOn separator := by
  induction cs with
  | nil => rfl
  | cons c cs ih =>
    rw [splitChars, List.splitOn_cons_eq_if_modifyHead, ih]
    have hparts := List.splitOn_ne_nil separator cs
    cases hsplit : cs.splitOn separator with
    | nil => exact absurd hsplit hparts
    | cons part parts => rfl

theorem notMem_of_mem_splitOn {cs part : List Char} (hpart : part ∈ cs.splitOn separator) :
    separator ∉ part := by
  induction cs generalizing part with
  | nil => simp_all
  | cons c cs ih =>
    rw [List.splitOn_cons_eq_if_modifyHead] at hpart
    by_cases hc : (c == separator) = true
    · rw [if_pos hc, List.mem_cons] at hpart
      rcases hpart with rfl | hpart
      · exact List.not_mem_nil
      · exact ih hpart
    · rw [if_neg hc] at hpart
      cases hsplit : cs.splitOn separator with
      | nil => simp [hsplit] at hpart
      | cons first parts =>
        rw [hsplit, List.modifyHead_cons, List.mem_cons] at hpart
        rcases hpart with rfl | hpart
        · have hfirst : separator ∉ first := ih (by simp [hsplit])
          have hne : separator ≠ c := fun h => hc (by simp [h])
          simp [hne, hfirst]
        · exact ih (by simp [hsplit, hpart])

end Text

namespace Value

theorem map_toList_segments (path : String) :
    (segments path).map String.toList = path.toList.splitOn '.' := by
  rw [segments, Text.split, Text.splitChars_eq_splitOn, List.map_map]
  simp [Function.comp_def]

theorem intercalate_segments (path : String) : ".".intercalate (segments path) = path := by
  apply String.toList_injective
  rw [String.toList_intercalate, map_toList_segments]
  exact List.intercalate_splitOn '.'

theorem dotless_of_mem_segments {path part : String} (hpart : part ∈ segments path) :
    '.' ∉ part.toList := by
  have hchars : part.toList ∈ path.toList.splitOn '.' := by
    rw [← map_toList_segments]
    exact List.mem_map_of_mem hpart
  exact Text.notMem_of_mem_splitOn hchars

/-- Texts without dots are the segments of what they give joined by dots. -/
theorem segments_intercalate {parts : List String} (hparts : parts ≠ [])
    (hdots : ∀ part ∈ parts, '.' ∉ part.toList) : segments (".".intercalate parts) = parts := by
  apply List.map_injective_iff.mpr fun _ _ => String.toList_injective
  rw [map_toList_segments, String.toList_intercalate]
  apply List.splitOn_intercalate '.'
  · simpa using hdots
  · simpa using hparts

theorem segments_ne_nil (path : String) : segments path ≠ [] := by
  intro h
  have hchars := map_toList_segments path
  rw [h] at hchars
  exact List.splitOn_ne_nil '.' path.toList hchars.symm

/-- A key in front of a path is its first segment. -/
theorem segments_cons {key : String} (hkey : '.' ∉ key.toList) (path : String) :
    segments (key ++ "." ++ path) = key :: segments path := by
  have hjoined : key ++ "." ++ path = ".".intercalate (key :: segments path) := by
    rw [String.intercalate_cons_of_ne_nil (segments_ne_nil path), intercalate_segments]
  rw [hjoined]
  apply segments_intercalate (List.cons_ne_nil _ _)
  intro part hpart
  rcases List.mem_cons.mp hpart with rfl | hpart
  · exact hkey
  · exact dotless_of_mem_segments hpart

/-- The path is empty or has an empty segment between its dots. -/
def Malformed (path : String) : Prop :=
  ∃ parts, ".".intercalate parts = path ∧ (∀ part ∈ parts, '.' ∉ part.toList) ∧ "" ∈ parts

theorem wellFormed_eq_false_iff (path : String) : wellFormed path = false ↔ Malformed path := by
  have hempty : wellFormed path = false ↔ "" ∈ segments path := by
    simp [wellFormed]
  rw [hempty]
  constructor
  · intro h
    exact ⟨segments path, intercalate_segments path, fun _ => dotless_of_mem_segments, h⟩
  · rintro ⟨parts, rfl, hdots, h⟩
    rwa [segments_intercalate (List.ne_nil_of_mem h) hdots]

instance (path : String) : Decidable (Malformed path) :=
  decidable_of_iff _ (wellFormed_eq_false_iff path)

/-- Two dots side by side are malformed, and so are a dot at either end and the empty path. -/
example : Malformed "" ∧ Malformed "a..b" ∧ Malformed ".a" ∧ Malformed "a." ∧
    ¬ Malformed "a.b.c" := by
  decide

end Value

end DossierCompliance
