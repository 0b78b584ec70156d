/-
Numerals as they are written.

A numeral is a sign, digits without a needless zero, and perhaps a fraction and an exponent. The
reader takes as much of a text as it can, so a numeral is only read back where what follows cannot
be more of it.

* `Numeral.WrittenAs` — the characters of a numeral;
* `Numeral.Stops` — what follows ends a numeral;
* `Numeral.read_append` — a written numeral is read back.
-/
import GatewayProbe.Json.Numeral

namespace GatewayProbe.Numeral

/-- One digit or more. -/
def IsDigits (ds : List Char) : Prop := ds ≠ [] ∧ ∀ d ∈ ds, d.isDigit = true

/-- What follows cannot be taken for more of a numeral. -/
def Stops (rest : List Char) : Prop :=
  ∀ c ∈ rest.head?, c.isDigit = false ∧ c ≠ '.' ∧ c ≠ 'e' ∧ c ≠ 'E'

/-- The digits of a whole part: a zero stands alone. -/
def IsWholePart (ds : List Char) : Prop := ds = ['0'] ∨ IsDigits ds ∧ ds.head? ≠ some '0'

/-- A fraction as it is written. -/
inductive FractionWrittenAs : Option (List Char) → List Char → Prop
  | none : FractionWrittenAs none []
  | some (ds : List Char) (digits : IsDigits ds) : FractionWrittenAs (some ds) ('.' :: ds)

/-- An exponent as it is written. -/
inductive PowerWrittenAs : Option (Bool × List Char) → List Char → Prop
  | none : PowerWrittenAs none []
  | some (mark : Char) (negative : Bool) (sign ds : List Char) (marks : mark = 'e' ∨ mark = 'E')
      (signs : sign = ['-'] ∧ negative = true ∨ (sign = ['+'] ∨ sign = []) ∧ negative = false)
      (digits : IsDigits ds) : PowerWrittenAs (some (negative, ds)) (mark :: (sign ++ ds))

/-- A numeral as it is written. -/
inductive WrittenAs (n : Numeral) : List Char → Prop
  | intro (fraction power : List Char) (whole : IsWholePart n.whole)
      (hfraction : FractionWrittenAs n.fraction fraction)
      (hpower : PowerWrittenAs n.power power) :
      WrittenAs n ((if n.negative then ['-'] else []) ++ (n.whole ++ (fraction ++ power)))

/-! ### Reading numerals back -/

theorem takeWhile_isDigit {ds rest : List Char} (digits : ∀ d ∈ ds, d.isDigit = true)
    (stops : ∀ c ∈ rest.head?, c.isDigit = false) :
    (ds ++ rest).takeWhile Char.isDigit = ds ∧ (ds ++ rest).dropWhile Char.isDigit = rest := by
  rw [List.takeWhile_append_of_pos digits, List.dropWhile_append_of_pos digits]
  cases rest with
  | nil => simp
  | cons c rest => simp [stops c rfl]

theorem someDigits_append {ds rest : List Char} (digits : IsDigits ds)
    (stops : ∀ c ∈ rest.head?, c.isDigit = false) :
    someDigits (ds ++ rest) = some (ds, rest) := by
  obtain ⟨htake, hdrop⟩ := takeWhile_isDigit digits.2 stops
  simp [someDigits, htake, hdrop, digits.1]

theorem readWhole_append {ds rest : List Char} (whole : IsWholePart ds)
    (stops : ∀ c ∈ rest.head?, c.isDigit = false) : readWhole (ds ++ rest) = some (ds, rest) := by
  rcases whole with rfl | ⟨digits, hzero⟩
  · rfl
  · obtain ⟨d, ds, rfl⟩ := List.exists_cons_of_ne_nil digits.1
    have hd : d ≠ '0' := fun h => hzero (by rw [h, List.head?_cons])
    rw [List.cons_append, readWhole, ← List.cons_append]
    · exact someDigits_append digits stops
    · intro cs h
      exact hd (List.cons.inj h).1

theorem readFraction_append {fraction : Option (List Char)} {cs rest : List Char}
    (written : FractionWrittenAs fraction cs)
    (stops : ∀ c ∈ rest.head?, c.isDigit = false ∧ c ≠ '.') :
    readFraction (cs ++ rest) = some (fraction, rest) := by
  cases written with
  | none =>
    cases rest with
    | nil => rfl
    | cons c rest =>
      rw [List.nil_append, readFraction]
      intro cs h
      exact (stops c rfl).2 (List.cons.inj h).1
  | some ds digits =>
    rw [List.cons_append, readFraction, someDigits_append digits fun c hc => (stops c hc).1,
      Option.map_some]

theorem splitSign_append {negative : Bool} {sign ds rest : List Char}
    (signs : sign = ['-'] ∧ negative = true ∨ (sign = ['+'] ∨ sign = []) ∧ negative = false)
    (digits : IsDigits ds) : Decimal.splitSign (sign ++ ds ++ rest) = (negative, ds ++ rest) := by
  obtain ⟨d, ds, rfl⟩ := List.exists_cons_of_ne_nil digits.1
  have hdigit := digits.2 d List.mem_cons_self
  rcases signs with ⟨rfl, rfl⟩ | ⟨rfl | rfl, rfl⟩
  · rfl
  · rfl
  · rw [List.nil_append, List.cons_append, Decimal.splitSign]
    · rintro cs ⟨⟩
      cases hdigit
    · rintro cs ⟨⟩
      cases hdigit

theorem readPower_append {power : Option (Bool × List Char)} {cs rest : List Char}
    (written : PowerWrittenAs power cs) (stops : Stops rest) :
    readPower (cs ++ rest) = some (power, rest) := by
  cases written with
  | none =>
    cases rest with
    | nil => rfl
    | cons c rest =>
      obtain ⟨-, -, he, hE⟩ := stops c rfl
      rw [List.nil_append, readPower, if_neg (by simp [he, hE])]
  | some mark negative sign ds marks signs digits =>
    rw [List.cons_append, readPower, if_pos marks, splitSign_append signs digits]
    simp [someDigits_append digits fun c hc => (stops c hc).1]

theorem IsWholePart.head_isDigit {ds : List Char} (whole : IsWholePart ds) :
    ∃ d rest, ds = d :: rest ∧ d.isDigit = true := by
  rcases whole with rfl | ⟨digits, -⟩
  · exact ⟨'0', [], rfl, rfl⟩
  · obtain ⟨d, rest, rfl⟩ := List.exists_cons_of_ne_nil digits.1
    exact ⟨d, rest, rfl, digits.2 d List.mem_cons_self⟩

theorem power_stops {power : Option (Bool × List Char)} {cs rest : List Char}
    (written : PowerWrittenAs power cs) (stops : Stops rest) :
    ∀ c ∈ (cs ++ rest).head?, c.isDigit = false ∧ c ≠ '.' := by
  cases written with
  | none => exact fun c hc => ⟨(stops c hc).1, (stops c hc).2.1⟩
  | some mark negative sign ds marks =>
    rintro c ⟨⟩
    rcases marks with rfl | rfl <;> decide

theorem fraction_stops {fraction : Option (List Char)} {cs rest : List Char}
    (written : FractionWrittenAs fraction cs) (stops : ∀ c ∈ rest.head?, c.isDigit = false) :
    ∀ c ∈ (cs ++ rest).head?, c.isDigit = false := by
  cases written with
  | none => exact stops
  | some ds =>
    rintro c ⟨⟩
    rfl

/-- A written numeral is read back, where it stops. -/
theorem read_append {n : Numeral} {cs rest : List Char} (written : WrittenAs n cs)
    (stops : Stops rest) : read (cs ++ rest) = some (n, rest) := by
  obtain ⟨fraction, power, whole, hfraction, hpower⟩ := written
  have hstops := power_stops hpower stops
  have hread : readWhole (n.whole ++ (fraction ++ (power ++ rest))) =
      some (n.whole, fraction ++ (power ++ rest)) :=
    readWhole_append whole (fraction_stops hfraction fun c hc => (hstops c hc).1)
  obtain ⟨negative, digits, fraction?, power?⟩ := n
  dsimp only at whole hfraction hpower hread ⊢
  -- A digit in front of a numeral without a sign must not be taken for one.
  cases negative with
  | true =>
    simp only [if_true, List.cons_append, List.nil_append, List.append_assoc, read, hread,
      readFraction_append hfraction hstops, readPower_append hpower stops, Option.bind_eq_bind,
      Option.bind_some, Option.pure_def]
  | false =>
    obtain ⟨d, ds, rfl, hdigit⟩ := whole.head_isDigit
    have hd : d ≠ '-' := by
      rintro rfl
      cases hdigit
    simp only [Bool.false_eq_true, if_false, List.cons_append, List.nil_append,
      List.append_assoc, read]
    split
    · next h => exact absurd (List.cons.inj h).1 hd
    · simp only [← List.cons_append, hread, readFraction_append hfraction hstops,
        readPower_append hpower stops, Option.bind_eq_bind, Option.bind_some, Option.pure_def]

theorem WrittenAs.head {n : Numeral} {cs : List Char} (written : WrittenAs n cs) :
    ∃ c tail, cs = c :: tail ∧ (c = '-' ∨ c.isDigit = true) := by
  obtain ⟨fraction, power, whole, -, -⟩ := written
  cases n.negative with
  | true => exact ⟨_, _, rfl, .inl rfl⟩
  | false =>
    obtain ⟨d, ds, hwhole, hdigit⟩ := whole.head_isDigit
    rw [hwhole]
    exact ⟨_, _, rfl, .inr hdigit⟩

theorem ne_of_head {c d : Char} (hc : c = '-' ∨ c.isDigit = true) (hdigit : d.isDigit = false)
    (hminus : d ≠ '-') : c ≠ d := by
  rintro rfl
  rcases hc with rfl | hc
  · exact hminus rfl
  · rw [hdigit] at hc
    cases hc

end GatewayProbe.Numeral
