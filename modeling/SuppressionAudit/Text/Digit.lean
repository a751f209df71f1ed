import SuppressionAudit.Text

/-!
# Decimal digits

Every script that writes numbers in the decimal system has ten digits that follow each other. A
numeral may be written in any of them. Main statement: the ten digits of each script have the values
from zero to nine.
-/

namespace SuppressionAudit

namespace Text

/-- The digits zero of the scripts. -/
def decimalZeros : List Nat :=
  [0x30, 0x660, 0x6F0, 0x7C0, 0x966, 0x9E6, 0xA66, 0xAE6, 0xB66, 0xBE6, 0xC66, 0xCE6, 0xD66, 0xDE6,
    0xE50, 0xED0, 0xF20, 0x1040, 0x1090, 0x17E0, 0x1810, 0x1946, 0x19D0, 0x1A80, 0x1A90, 0x1B50,
    0x1BB0, 0x1C40, 0x1C50, 0xA620, 0xA8D0, 0xA900, 0xA9D0, 0xA9F0, 0xAA50, 0xABF0, 0xFF10, 0x104A0,
    0x10D30, 0x11066, 0x110F0, 0x11136, 0x111D0, 0x112F0, 0x11450, 0x114D0, 0x11650, 0x116C0,
    0x11730, 0x118E0, 0x11950, 0x11C50, 0x11D50, 0x11DA0, 0x16A60, 0x16AC0, 0x16B50, 0x1D7CE,
    0x1D7D8, 0x1D7E2, 0x1D7EC, 0x1D7F6, 0x1E140, 0x1E2F0, 0x1E950, 0x1FBF0]

def digitValue? (c : Char) : Option Nat :=
  (decimalZeros.find? fun low => low ≤ c.toNat && c.toNat < low + 10).map fun low =>
    c.toNat - low

/-- The runs of ten digits do not overlap, and are listed in order. -/
theorem pairwise_decimalZeros : decimalZeros.Pairwise fun low next => low + 10 ≤ next := by
  decide +kernel

theorem find?_run {n low : Nat} {lows : List Nat}
    (hApart : lows.Pairwise fun low next => low + 10 ≤ next) (hMem : low ∈ lows)
    (hLow : low ≤ n) (hHigh : n < low + 10) :
    lows.find? (fun low => low ≤ n && n < low + 10) = some low := by
  induction lows with
  | nil => simp at hMem
  | cons first rest ih =>
    have hRest := List.pairwise_cons.1 hApart
    rcases List.mem_cons.1 hMem with rfl | hMem
    · simp [hLow, hHigh]
    · have hBefore := hRest.1 low hMem
      have hNot : ¬ n < first + 10 := by omega
      simp [hNot, ih hRest.2 hMem]

/-- A character stands for the digit that it is away from the zero of its script. -/
theorem digitValue?_of_toNat {c : Char} {low d : Nat} (hMem : low ∈ decimalZeros) (hDigit : d < 10)
    (hChar : c.toNat = low + d) : digitValue? c = some d := by
  have hRun := find?_run pairwise_decimalZeros hMem (by omega : low ≤ c.toNat) (by omega)
  rw [digitValue?, hRun, hChar]
  simp

/-- The number that a numeral writes, whose digits are of any script. -/
def decimalValue? (s : Text) : Option Nat :=
  if s.isEmpty then none
  else
    s.foldl (fun n c => n.bind fun n => (digitValue? c).map fun d => 10 * n + d) (some 0)

end Text

end SuppressionAudit
