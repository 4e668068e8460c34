import WebService.Proofs.Text.Lossy
import WebService.Proofs.Text.Percent
import WebService.Text.Form

/-!
Form data: the pairs that are read from it are those that were written.
-/
namespace WebService.Text

variable {b : UInt8} {bytes : List UInt8} {s : String}

/-! Writing -/

/-- All octets but those of letters and digits, of four marks and of the space. -/
def isFormReserved (b : UInt8) : Bool :=
  !(0x30 ≤ b && b ≤ 0x39 || 0x41 ≤ b && b ≤ 0x5a || 0x61 ≤ b && b ≤ 0x7a ||
    [0x20, 0x2a, 0x2d, 0x2e, 0x5f].contains b)

def spaceToPlus (b : UInt8) : UInt8 := if b = 0x20 then 0x2b else b

def encodeComponent (s : String) : List UInt8 :=
  (percentEncode isFormReserved (octets s)).map spaceToPlus

def encodePair (pair : String × String) : List UInt8 :=
  encodeComponent pair.1 ++ 0x3d :: encodeComponent pair.2

/-- Pairs as form data, an equals sign in each and ampersands between them. -/
def encodeForm (pairs : List (String × String)) : String :=
  asciiText (joinWith [0x26] (pairs.map encodePair))

/-! What stands in form data -/

/-- Whether an octet can stand in a component that is written. -/
def IsComponentOctet (b : UInt8) : Prop := b < 0x80 ∧ b ≠ 0x26 ∧ b ≠ 0x3d

theorem lt_of_not_isFormReserved (h : isFormReserved b = false) : b < 0x80 := by
  rw [UInt8.lt_iff_toNat_lt]
  simp only [isFormReserved, Bool.not_eq_false', Bool.or_eq_true, Bool.and_eq_true,
    decide_eq_true_iff, UInt8.le_iff_toNat_le, List.contains_iff_mem, List.mem_cons,
    List.not_mem_nil, or_false] at h
  rcases h with ((h | h) | h) | rfl | rfl | rfl | rfl | rfl
  all_goals first | decide | skip
  all_goals exact Nat.lt_of_le_of_lt h.2 (by decide)

theorem mem_percentEncode_isFormReserved (h : b ∈ percentEncode isFormReserved bytes) :
    IsComponentOctet b ∧ b ≠ 0x2b := by
  have hdigit : ∀ n < 16, (hexDigit n < 0x80 ∧ hexDigit n ≠ 0x26 ∧ hexDigit n ≠ 0x3d) ∧
      hexDigit n ≠ 0x2b := by decide
  rcases mem_percentEncode h with rfl | ⟨n, hn, rfl⟩ | ⟨-, hfree⟩
  · exact ⟨⟨by decide, by decide, by decide⟩, by decide⟩
  · exact hdigit n hn
  · refine ⟨⟨lt_of_not_isFormReserved hfree, ?_, ?_⟩, ?_⟩
    all_goals
      rintro rfl
      exact absurd hfree (by decide)

theorem isComponentOctet_of_mem (h : b ∈ encodeComponent s) : IsComponentOctet b := by
  obtain ⟨d, hd, rfl⟩ := List.mem_map.mp h
  rw [spaceToPlus]
  split
  · exact ⟨by decide, by decide, by decide⟩
  · exact (mem_percentEncode_isFormReserved hd).1

theorem encodePair_bounds {pair : String × String} (h : b ∈ encodePair pair) :
    b < 0x80 ∧ b ≠ 0x26 := by
  rw [encodePair, List.mem_append, List.mem_cons] at h
  rcases h with hkey | rfl | hvalue
  · have hb := isComponentOctet_of_mem hkey
    exact ⟨hb.1, hb.2.1⟩
  · exact ⟨by decide, by decide⟩
  · have hb := isComponentOctet_of_mem hvalue
    exact ⟨hb.1, hb.2.1⟩

/-! Reading what was written -/

theorem plusToSpace_spaceToPlus (h : b ≠ 0x2b) : plusToSpace (spaceToPlus b) = b := by
  unfold spaceToPlus
  split
  · rename_i hspace
    rw [hspace]
    rfl
  · exact if_neg h

theorem decodeComponent_encodeComponent (s : String) : decodeComponent (encodeComponent s) = s := by
  have hback : (encodeComponent s).map plusToSpace = percentEncode isFormReserved (octets s) := by
    rw [encodeComponent, List.map_map]
    refine (List.map_congr_left fun b hb => ?_).trans (List.map_id _)
    exact plusToSpace_spaceToPlus (mem_percentEncode_isFormReserved hb).2
  rw [decodeComponent, hback, percentDecode_percentEncode (by decide), lossy_octets]

theorem decodePair_encodePair (pair : String × String) : decodePair (encodePair pair) = pair := by
  have hcut : splitFirst? (· = 0x3d) (encodePair pair) =
      some (encodeComponent pair.1, encodeComponent pair.2) := by
    refine splitFirst?_eq_some_iff.mpr ⟨0x3d, rfl, rfl, fun b hb => ?_⟩
    exact decide_eq_false (isComponentOctet_of_mem hb).2.2
  simp only [decodePair, hcut, decodeComponent_encodeComponent]

/-- Form data that is written for some pairs is cut into the pairs as they were written. -/
theorem splitOn_octets_encodeForm {pairs : List (String × String)} (h : pairs ≠ []) :
    splitOn (· = 0x26) (octets (encodeForm pairs)) = pairs.map encodePair := by
  have hmem : ∀ part ∈ pairs.map encodePair, ∀ b ∈ part, b < 0x80 ∧ b ≠ 0x26 := by
    intro part hpart b hb
    obtain ⟨pair, -, rfl⟩ := List.mem_map.mp hpart
    exact encodePair_bounds hb
  have hascii : ∀ b ∈ joinWith [0x26] (pairs.map encodePair), b < 0x80 := by
    intro b hb
    rcases mem_joinWith hb with hmark | ⟨part, hpart, hb⟩
    · cases List.mem_singleton.mp hmark
      decide
    · exact (hmem part hpart b hb).1
  rw [encodeForm, octets_asciiText hascii]
  refine splitOn_joinWith (by decide) (by simpa using h) fun part hpart b hb => ?_
  exact decide_eq_false (hmem part hpart b hb).2

/-- All pairs are read back in their order, those of one key and those with an empty key or value
among them. -/
theorem decodeForm_encodeForm (pairs : List (String × String)) :
    decodeForm (encodeForm pairs) = pairs := by
  by_cases hne : pairs = []
  · rw [hne]
    rfl
  · have hkept : ∀ part ∈ pairs.map encodePair, (!part.isEmpty) = true := by
      intro part hpart
      obtain ⟨pair, -, rfl⟩ := List.mem_map.mp hpart
      simp [encodePair]
    rw [decodeForm, splitOn_octets_encodeForm hne, List.filter_eq_self.mpr hkept, List.map_map]
    exact (List.map_congr_left fun pair _ => decodePair_encodePair pair).trans (List.map_id _)

end WebService.Text
