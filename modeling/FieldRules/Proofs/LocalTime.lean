import FieldRules.Proofs.WrittenInstant

namespace FieldRules

/-- How far the clocks of a place are ahead of universal time, or behind it. -/
structure Offset where
  ahead : Bool
  hours : Fin 24
  minutes : Fin 60

namespace Offset

/-- Seconds ahead of universal time. -/
def seconds (o : Offset) : Int :=
  let n : Int := 3600 * o.hours.val + 60 * o.minutes.val
  if o.ahead then n else -n

def chars (o : Offset) : List Char :=
  (if o.ahead then '+' else '-') ::
    (Text.padded 2 o.hours.val ++ ':' :: Text.padded 2 o.minutes.val)

theorem natAbs_seconds_lt (o : Offset) : o.seconds.natAbs < Instant.secondsPerDay := by
  have hhours := o.hours.isLt
  have hminutes := o.minutes.isLt
  simp only [seconds, Instant.secondsPerDay]
  split <;> omega

theorem seconds_mod (o : Offset) : o.seconds % 60 = 0 := by
  simp only [seconds]
  split <;> omega

end Offset

/-- What the clocks of the place show at the instant. -/
def Instant.shownAt (t : Instant) (o : Offset) : Instant := ⟨t.secs + o.seconds, t.nanos⟩

theorem Instant.IsProper.shownAt {t : Instant} (h : t.IsProper) (o : Offset) :
    (t.shownAt o).IsProper := by
  refine ⟨h.nanos_lt, fun hbillion => ?_⟩
  have hleap := h.leap hbillion
  have hwhole := o.seconds_mod
  simp only [Instant.shownAt]
  omega

namespace Rfc3339

/-- The text of an instant at a place. -/
def writeAt (t : Instant) (o : Offset) : String :=
  String.ofList (localChars (t.shownAt o) ++ o.chars)

theorem offsetDigits_padded {n : Nat} (h : n < 100) (rest : List Char) :
    offsetDigits (Text.padded 2 n ++ rest) = .ok (n, rest) := by
  have hlong : ¬Text.byteLength (Text.padded 2 n ++ rest) < 2 := by
    have hbytes := length_le_byteLength (Text.padded 2 n)
    have hchars := le_length_padded 2 n
    rw [Text.byteLength_append]
    omega
  simp only [offsetDigits, if_neg hlong, twoDigits_padded h]

theorem readOffset_chars (o : Offset) : readOffset o.chars = .ok (o.seconds, []) := by
  have hhours := offsetDigits_padded (n := o.hours.val) (by omega)
    (':' :: Text.padded 2 o.minutes.val)
  have hminutes := offsetDigits_padded (n := o.minutes.val) (by omega) []
  rw [List.append_nil] at hminutes
  have hcolon := expect_of_pos (c := ':') (p := (· == ':')) (Text.padded 2 o.minutes.val) rfl
  cases hahead : o.ahead with
  | true =>
    simp [readOffset, Offset.chars, Offset.seconds, hahead, hhours, hminutes, hcolon, bind,
      Except.bind, pure, Except.pure]
  | false =>
    simp [readOffset, Offset.chars, Offset.seconds, hahead, hhours, hminutes, hcolon, bind,
      Except.bind, pure, Except.pure]

/-- The clocks of the place have to show a year of four digits. -/
theorem readDatePhrase_writeAt {t : Instant} (ht : t.IsProper) {o : Offset}
    (hyear : 0 ≤ (t.shownAt o).date.year ∧ (t.shownAt o).date.year ≤ 9999) (now : Instant) :
    readDatePhrase (writeAt t o) now = .ok t := by
  have hlong : 19 ≤ (writeAt t o).toList.length := by
    have hlocal := length_localChars (t.shownAt o)
    rw [writeAt, String.toList_ofList, List.length_append]
    omega
  have hsecs : (t.shownAt o).secs - o.seconds = t.secs := Int.add_sub_cancel _ _
  have hsign : ∃ z rest, o.chars = z :: rest ∧ z.isDigit = false ∧ z ≠ '.' := by
    refine ⟨_, _, rfl, ?_, ?_⟩ <;> split <;> decide
  obtain ⟨z, rest, hchars, hdigit, hpoint⟩ := hsign
  have hoffset := readOffset_chars o
  rw [hchars] at hoffset
  rw [readDatePhrase_of_long hlong, read, writeAt, String.toList_ofList, hchars,
    readChars_localChars (ht.shownAt o) hdigit hpoint hyear hoffset o.natAbs_seconds_lt, hsecs]
  rfl

end Rfc3339
end FieldRules
