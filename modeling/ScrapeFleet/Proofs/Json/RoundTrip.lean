import ScrapeFleet.Json.Reader
import ScrapeFleet.Json.Writer
import ScrapeFleet.Proofs.Decimal.Digits

/-!
# Reading written trees

A tree whose integers fit 64 bits and that has no reals is read back from its text.  Only
one thing may change: the reader notes which field names were written without escapes, so
`reread` sets these marks anew.
-/

namespace ScrapeFleet.Json

/-! ## Strings -/

def isPlain (c : Char) : Bool := escapeChar c = [c]

theorem isPlain_of_isDigit {c : Char} (hc : c.isDigit = true) : isPlain c = true := by
  have hlow := (Literal.toNat_of_isDigit hc).1
  unfold isPlain escapeChar
  split
  case h_8 =>
    rw [if_neg (by omega)]
    exact decide_eq_true rfl
  all_goals cases hc

theorem hex4?_control : ∀ n < 0x20,
    hex4? '0' '0' (Hex.digit (n / 16)) (Hex.digit (n % 16)) = some n := by decide

theorem pushUnit_control {n : Nat} (hn : n < 0x20) (p : Partial) :
    p.pushUnit n = p.pushEscaped (Char.ofNat n) := by
  have hlow : isLow n = false := by
    simp only [isLow, Bool.and_eq_false_iff, decide_eq_false_iff_not]
    omega
  have hhigh : isHigh n = false := by
    simp only [isHigh, Bool.and_eq_false_iff, decide_eq_false_iff_not]
    omega
  simp [Partial.pushUnit, hlow, hhigh]

def soFar (acc : List Char) (plain : Bool) : Partial := ⟨true, none, acc, plain⟩

theorem stringRest_self {c : Char} (hquote : c ≠ '"') (hescape : c ≠ '\\')
    (hprint : ¬c.toNat < 0x20) (p : Partial) (rest : List Char) :
    stringRest p (c :: rest) = stringRest (p.push c) rest := by
  rw [stringRest, if_neg hprint]
  · exact hquote
  · exact fun _ _ _ _ _ heq => absurd heq hescape
  · exact fun _ _ heq => absurd heq hescape

theorem stringRest_simple {letter c : Char} (hletter : simpleEscape? letter = some c)
    (p : Partial) (rest : List Char) :
    stringRest p ('\\' :: letter :: rest) = stringRest (p.pushEscaped c) rest := by
  rw [stringRest, hletter]
  rintro _ _ _ _ _ rfl -
  cases hletter

theorem stringRest_escapeChar (acc : List Char) (plain : Bool) (c : Char) (rest : List Char) :
    stringRest (soFar acc plain) (escapeChar c ++ rest) =
      stringRest (soFar (c :: acc) (plain && isPlain c)) rest := by
  unfold isPlain
  unfold escapeChar
  split
  case h_8 =>
    split
    · rename_i hcontrol
      simp [stringRest, hex4?_control _ hcontrol, pushUnit_control hcontrol, soFar,
        Partial.pushEscaped, Partial.push]
    · rename_i hquote hescape _ _ _ _ _ hprint
      rw [List.singleton_append, stringRest_self hquote hescape hprint]
      simp [soFar, Partial.push]
  all_goals
    rw [List.cons_append, List.singleton_append, stringRest_simple (by rfl)]
    simp [soFar, Partial.pushEscaped, Partial.push]

theorem stringRest_text (s : List Char) (acc : List Char) (plain : Bool) (rest : List Char) :
    stringRest (soFar acc plain) (s.flatMap escapeChar ++ '"' :: rest) =
      some (soFar (s.reverse ++ acc) (plain && s.all isPlain), rest) := by
  induction s generalizing acc plain with
  | nil => simp [stringRest]
  | cons c more ih =>
      rw [List.flatMap_cons, List.append_assoc, stringRest_escapeChar, ih]
      simp [Bool.and_assoc]

theorem stringRest_writeText (s : String) (rest : List Char) :
    stringRest .start (s.toList.flatMap escapeChar ++ '"' :: rest) =
      some (soFar s.toList.reverse (s.toList.all isPlain), rest) := by
  have htext := stringRest_text s.toList [] true rest
  rwa [List.append_nil, Bool.true_and] at htext

theorem text?_soFar (s : String) (plain : Bool) :
    (soFar s.toList.reverse plain).text? = some s := by
  simp [soFar, Partial.text?]

/-! ## Numbers -/

/-- Text that does not go on with a number before it. -/
def Stops (rest : List Char) : Prop :=
  ∀ c ∈ rest.head?, c.isDigit = false ∧ c ≠ '.' ∧ c ≠ 'e' ∧ c ≠ 'E'

theorem stops_nil : Stops [] := by
  rintro _ ⟨⟩

theorem stops_cons {c : Char} (hc : c.isDigit = false ∧ c ≠ '.' ∧ c ≠ 'e' ∧ c ≠ 'E')
    (rest : List Char) : Stops (c :: rest) := by
  rintro _ ⟨⟩
  exact hc

theorem fraction?_of_stops {rest : List Char} (hrest : Stops rest) :
    fraction? rest = some (none, rest) := by
  unfold fraction?
  split
  · exact absurd rfl (hrest '.' rfl).2.1
  · rfl

theorem exponentPart?_of_stops {rest : List Char} (hrest : Stops rest) :
    exponentPart? rest = some (none, rest) := by
  cases rest with
  | nil => rfl
  | cons c more =>
      obtain ⟨-, -, hlower, hupper⟩ := hrest c rfl
      simp [exponentPart?, hlower, hupper]

theorem unsigned_numeral (negative : Bool) (n : Nat) {rest : List Char} (hrest : Stops rest) :
    unsigned negative (Nat.toDigits 10 n ++ rest) =
      some (integerValue negative (Nat.toDigits 10 n), rest) := by
  have hdigits := Literal.digits_numeral n fun c hc => (hrest c hc).1
  have hzero : ((Nat.toDigits 10 n).isEmpty ||
      (Nat.toDigits 10 n).length ≠ 1 && (Nat.toDigits 10 n).head? = some '0') = false := by
    rcases Literal.numeral_noLeadingZero n with hzero | hzero <;> simp [hzero]
  unfold unsigned
  rw [hdigits]
  simp only [hzero, fraction?_of_stops hrest]
  simp [exponentPart?_of_stops hrest]

theorem number_of_isDigit {c : Char} (hc : c.isDigit = true) (rest : List Char) :
    number (c :: rest) = unsigned false (c :: rest) := by
  rw [number]
  rintro _ heq
  obtain rfl := (List.cons.inj heq).1
  exact absurd hc (by decide)

theorem number_writeInt {n : Int} (hmin : Word.minSigned ≤ n) (hmax : n ≤ Word.maxUnsigned)
    {rest : List Char} (hrest : Stops rest) :
    number (writeInt n ++ rest) = some (.int n, rest) := by
  unfold writeInt
  split
  · rename_i hneg
    have habs : -(n.natAbs : Int) = n := by omega
    have hfits : (decide (n.natAbs = 0) || decide (n < Word.minSigned)) = false := by
      simp only [Bool.or_eq_false_iff, decide_eq_false_iff_not]
      omega
    rw [List.cons_append, number, unsigned_numeral true _ hrest, integerValue,
      Literal.digitsToNat_numeral]
    simp only [habs, hfits, if_true, Bool.false_eq_true, if_false]
  · have habs : (n.natAbs : Int) = n := by omega
    have hfits : n.natAbs ≤ Word.maxUnsigned := by omega
    obtain ⟨c, ds, hds⟩ := List.exists_cons_of_ne_nil (Nat.toDigits_ne_nil (n := n.natAbs) (b := 10))
    have hc : c.isDigit = true := Literal.isDigit_of_mem_numeral (hds ▸ List.mem_cons_self)
    have hnumber : number (Nat.toDigits 10 n.natAbs ++ rest) =
        unsigned false (Nat.toDigits 10 n.natAbs ++ rest) := by
      rw [hds]
      exact number_of_isDigit hc _
    rw [hnumber, unsigned_numeral false _ hrest, integerValue, Literal.digitsToNat_numeral]
    simp [hfits, habs]

/-! ## Trees -/

/-- The trees that are read back: integers fit 64 bits, and every other literal is exact. -/
inductive Exact : Tree → Prop
  | null : Exact .null
  | bool (b : Bool) : Exact (.bool b)
  | int {n : Int} (hmin : Word.minSigned ≤ n) (hmax : n ≤ Word.maxUnsigned) : Exact (.int n)
  | text (s : String) : Exact (.text s)
  | list {ts : List Tree} (h : ∀ t ∈ ts, Exact t) : Exact (.list ts)
  | table {fs : List (FieldName × Tree)} (h : ∀ f ∈ fs, Exact f.2) : Exact (.table fs)

def rereadName (k : FieldName) : FieldName := ⟨k.text, k.text.toList.all isPlain⟩

mutual

def reread : Tree → Tree
  | .list ts => .list (rereadItems ts)
  | .table fs => .table (rereadFields fs)
  | t => t

def rereadItems : List Tree → List Tree
  | [] => []
  | t :: ts => reread t :: rereadItems ts

def rereadFields : List (FieldName × Tree) → List (FieldName × Tree)
  | [] => []
  | (k, t) :: fs => (rereadName k, reread t) :: rereadFields fs

end

theorem rereadItems_eq_map (ts : List Tree) : rereadItems ts = ts.map reread := by
  induction ts with
  | nil => rfl
  | cons t rest ih => rw [rereadItems, ih, List.map_cons]

theorem rereadFields_eq_map (fs : List (FieldName × Tree)) :
    rereadFields fs = fs.map (fun f => (rereadName f.1, reread f.2)) := by
  induction fs with
  | nil => rfl
  | cons f rest ih => rw [rereadFields, ih, List.map_cons]

theorem skipSpace_cons {c : Char} (hc : isSpace c = false) (cs : List Char) :
    skipSpace (c :: cs) = c :: cs := by
  simp [skipSpace, hc]

theorem isSpace_of_isDigit {c : Char} (hc : c.isDigit = true) : isSpace c = false := by
  cases h : isSpace c with
  | false => rfl
  | true =>
      simp only [isSpace, Bool.or_eq_true, decide_eq_true_eq] at h
      rcases h with ((rfl | rfl) | rfl) | rfl <;> cases hc

theorem first_writeInt (n : Int) :
    ∃ c rest, writeInt n = c :: rest ∧ (c = '-' ∨ c.isDigit = true) := by
  unfold writeInt
  split
  · exact ⟨'-', _, rfl, .inl rfl⟩
  · obtain ⟨c, ds, hds⟩ := List.exists_cons_of_ne_nil (Nat.toDigits_ne_nil (n := n.natAbs) (b := 10))
    exact ⟨c, ds, hds, .inr (Literal.isDigit_of_mem_numeral (hds ▸ List.mem_cons_self))⟩

theorem value_number {c : Char} (hc : c = '-' ∨ c.isDigit = true) (fuel : Nat) (rest : List Char) :
    value (fuel + 1) (c :: rest) = number (c :: rest) := by
  have hspace : isSpace c = false := by
    rcases hc with rfl | hc
    · rfl
    · exact isSpace_of_isDigit hc
  have hne : ∀ d : Char, d ≠ '-' → d.isDigit = false → c ≠ d := by
    rintro d hdash hdigit rfl
    rcases hc with hc | hc
    · exact hdash hc
    · rw [hdigit] at hc
      cases hc
  rw [value, skipSpace_cons hspace]
  split
  case h_7 => rfl
  all_goals
    rename_i heq
    exact absurd (List.cons.inj heq).1 (hne _ (by decide) (by decide))

theorem first_write {t : Tree} (ht : Exact t) :
    ∃ c rest, write t = c :: rest ∧ isSpace c = false ∧ c ≠ ']' := by
  cases ht with
  | null => exact ⟨_, _, rfl, by decide, by decide⟩
  | bool b => cases b <;> exact ⟨_, _, rfl, by decide, by decide⟩
  | int _ _ =>
      rename_i n _ _
      obtain ⟨c, rest, hwrite, hc⟩ := first_writeInt n
      refine ⟨c, rest, by rw [write, hwrite], ?_⟩
      rcases hc with rfl | hc
      · decide
      · refine ⟨isSpace_of_isDigit hc, ?_⟩
        rintro rfl
        cases hc
  | text s => exact ⟨_, _, rfl, by decide, by decide⟩
  | list _ =>
      rename_i ts _
      cases ts with
      | nil => exact ⟨_, _, by rw [write], by decide, by decide⟩
      | cons t rest => exact ⟨_, _, by rw [write]; rfl, by decide, by decide⟩
  | table _ =>
      rename_i fs _
      cases fs with
      | nil => exact ⟨_, _, by rw [write], by decide, by decide⟩
      | cons f rest => exact ⟨_, _, by rw [write]; rfl, by decide, by decide⟩

/-- A tree is read back from its text, whatever follows, with fuel for each of its characters. -/
def ReadsBack (t : Tree) : Prop :=
  ∀ fuel rest, (write t).length ≤ fuel → Stops rest →
    value fuel (write t ++ rest) = some (reread t, rest)

theorem length_write_pos {t : Tree} (ht : Exact t) : 0 < (write t).length := by
  obtain ⟨c, rest, hwrite, -⟩ := first_write ht
  simp [hwrite]

theorem stops_writeItems (ts : List Tree) (rest : List Char) : Stops (writeItems ts ++ rest) := by
  cases ts <;> exact stops_cons (by decide) _

theorem stops_writeMembers (fs : List (FieldName × Tree)) (rest : List Char) :
    Stops (writeMembers fs ++ rest) := by
  cases fs <;> exact stops_cons (by decide) _

theorem items_write {t : Tree} {ts : List Tree} {fuel : Nat} (acc : List Tree) (rest : List Char)
    (hexact : ∀ x ∈ t :: ts, Exact x) (hread : ∀ x ∈ t :: ts, ReadsBack x)
    (hfuel : (write t).length + (writeItems ts).length ≤ fuel) :
    items fuel acc (write t ++ (writeItems ts ++ rest)) =
      some (.list (acc.reverse ++ (t :: ts).map reread), rest) := by
  have hpos := length_write_pos (hexact t List.mem_cons_self)
  -- Each item takes one unit of fuel and has at least one character to pay for it.
  induction ts generalizing t acc fuel with
  | nil =>
      cases fuel with
      | zero => omega
      | succ fuel =>
          rw [writeItems, List.length_singleton] at hfuel
          rw [items, hread t List.mem_cons_self fuel _ (by omega) (stops_writeItems _ _), writeItems,
            List.singleton_append]
          simp only [skipSpace_cons (c := ']') (by decide)]
          simp
  | cons t' more ih =>
      cases fuel with
      | zero => omega
      | succ fuel =>
          rw [writeItems, List.cons_append, List.length_cons, List.length_append] at hfuel
          have hread' := fun x hx => hread x (List.mem_cons_of_mem _ hx)
          have hexact' := fun x hx => hexact x (List.mem_cons_of_mem _ hx)
          rw [items, hread t List.mem_cons_self fuel _ (by omega) (stops_writeItems _ _), writeItems,
            List.cons_append, List.cons_append, List.append_assoc]
          simp only [skipSpace_cons (c := ',') (by decide)]
          rw [ih _ hexact' hread' (by omega) (length_write_pos (hexact' _ List.mem_cons_self))]
          simp

def writeMember (f : FieldName × Tree) : List Char := writeText f.1.text ++ ':' :: write f.2

theorem length_writeMember (f : FieldName × Tree) : (write f.2).length < (writeMember f).length := by
  rw [writeMember, List.length_append, List.length_cons]
  omega

theorem members_writeMember {f : FieldName × Tree} {acc : List (FieldName × Tree)} {fuel : Nat}
    {after : List Char}
    (hvalue : value fuel (write f.2 ++ after) = some (reread f.2, after)) :
    members (fuel + 1) true acc (writeMember f ++ after) =
      match skipSpace after with
      | ',' :: more => members fuel true ((rereadName f.1, reread f.2) :: acc) more
      | '\x7d' :: more => some (.table ((rereadName f.1, reread f.2) :: acc).reverse, more)
      | _ => none := by
  have htext : writeMember f ++ after =
      '"' :: (f.1.text.toList.flatMap escapeChar ++ '"' :: ':' :: (write f.2 ++ after)) := by
    simp [writeMember, writeText]
  rw [htext, members, skipSpace_cons (by decide)]
  simp only [stringRest_writeText]
  rw [skipSpace_cons (by decide)]
  simp only [hvalue, text?_soFar]
  rfl

theorem members_write {f : FieldName × Tree} {fs : List (FieldName × Tree)} {fuel : Nat}
    (acc : List (FieldName × Tree)) (rest : List Char) (hread : ∀ x ∈ f :: fs, ReadsBack x.2)
    (hfuel : (writeMember f).length + (writeMembers fs).length ≤ fuel) :
    members fuel true acc (writeMember f ++ (writeMembers fs ++ rest)) =
      some (.table (acc.reverse ++ (f :: fs).map (fun f => (rereadName f.1, reread f.2))), rest) := by
  have hpos := length_writeMember f
  induction fs generalizing f acc fuel with
  | nil =>
      cases fuel with
      | zero => omega
      | succ fuel =>
          rw [writeMembers, List.length_singleton] at hfuel
          rw [members_writeMember
            (hread f List.mem_cons_self fuel _ (by omega) (stops_writeMembers _ _)), writeMembers,
            List.singleton_append]
          simp only [skipSpace_cons (c := '\x7d') (by decide)]
          simp
  | cons f' more ih =>
      cases fuel with
      | zero => omega
      | succ fuel =>
          have hmember : writeMembers (f' :: more) = ',' :: (writeMember f' ++ writeMembers more) := by
            obtain ⟨k, t⟩ := f'
            simp [writeMembers, writeMember]
          have hread' := fun x hx => hread x (List.mem_cons_of_mem _ hx)
          rw [hmember, List.length_cons, List.length_append] at hfuel
          rw [members_writeMember
            (hread f List.mem_cons_self fuel _ (by omega) (stops_writeMembers _ _)), hmember,
            List.cons_append, List.append_assoc]
          simp only [skipSpace_cons (c := ',') (by decide)]
          rw [ih _ hread' (by omega) (length_writeMember f')]
          simp

theorem keyword_append (word : List Char) (t : Tree) (rest : List Char) :
    keyword word t (word ++ rest) = some (t, rest) := by
  simp [keyword, List.isPrefixOf_iff_prefix]

theorem value_list {c : Char} (hspace : isSpace c = false) (hbracket : c ≠ ']') (fuel : Nat)
    (cs : List Char) : value (fuel + 1) ('[' :: c :: cs) = items fuel [] (c :: cs) := by
  rw [value, skipSpace_cons (by decide)]
  simp only [skipSpace_cons hspace]
  split
  · rename_i heq
    exact absurd (List.cons.inj heq).1 hbracket
  · rfl

theorem value_table (fuel : Nat) (cs : List Char) :
    value (fuel + 1) ('\x7b' :: '"' :: cs) = members fuel true [] ('"' :: cs) := by
  rw [value, skipSpace_cons (by decide)]
  simp only [skipSpace_cons (c := '"') (by decide)]
  rfl

theorem readsBack_of_succ {t : Tree} (ht : Exact t)
    (h : ∀ fuel rest, (write t).length ≤ fuel + 1 → Stops rest →
      value (fuel + 1) (write t ++ rest) = some (reread t, rest)) : ReadsBack t := by
  intro fuel rest hfuel hrest
  have hpos := length_write_pos ht
  cases fuel with
  | zero => omega
  | succ fuel => exact h fuel rest hfuel hrest

theorem readsBack_of_exact {t : Tree} (ht : Exact t) : ReadsBack t := by
  induction ht with
  | null =>
      refine readsBack_of_succ .null fun fuel rest _ _ => ?_
      rw [write, List.cons_append, value, skipSpace_cons (by decide)]
      exact keyword_append ['u', 'l', 'l'] .null rest
  | bool b =>
      refine readsBack_of_succ (.bool b) fun fuel rest _ _ => ?_
      cases b with
      | true =>
          rw [write, List.cons_append, value, skipSpace_cons (by decide)]
          exact keyword_append ['r', 'u', 'e'] (.bool true) rest
      | false =>
          rw [write, List.cons_append, value, skipSpace_cons (by decide)]
          exact keyword_append ['a', 'l', 's', 'e'] (.bool false) rest
  | @int n hmin hmax =>
      refine readsBack_of_succ (.int hmin hmax) fun fuel rest _ hrest => ?_
      obtain ⟨c, more, hwrite, hc⟩ := first_writeInt n
      have hnumber := number_writeInt hmin hmax hrest
      rw [hwrite, List.cons_append] at hnumber
      rw [write, hwrite, List.cons_append, value_number hc]
      exact hnumber
  | text s =>
      refine readsBack_of_succ (.text s) fun fuel rest _ _ => ?_
      rw [write, writeText, List.append_assoc, List.cons_append, value, skipSpace_cons (by decide)]
      simp only [stringValue, List.singleton_append, stringRest_writeText, Option.map_some, text?_soFar]
      rfl
  | @list ts h ih =>
      refine readsBack_of_succ (.list h) fun fuel rest hfuel _ => ?_
      cases ts with
      | nil =>
          rw [write, List.cons_append, value, skipSpace_cons (by decide)]
          rfl
      | cons t more =>
          obtain ⟨c, cs, hfirst, hspace, hbracket⟩ := first_write (h t List.mem_cons_self)
          have hwrite : write (.list (t :: more)) ++ rest =
              '[' :: (write t ++ (writeItems more ++ rest)) := by
            simp [write]
          have hlength : (write (.list (t :: more))).length =
              (write t).length + (writeItems more).length + 1 := by
            simp [write]
          have hitems : items fuel [] (write t ++ (writeItems more ++ rest)) = _ :=
            items_write [] rest h ih (by omega)
          rw [hfirst, List.cons_append] at hitems
          rw [hwrite, hfirst, List.cons_append, value_list hspace hbracket, hitems, reread,
            rereadItems_eq_map]
          rfl
  | @table fs h ih =>
      refine readsBack_of_succ (.table h) fun fuel rest hfuel _ => ?_
      cases fs with
      | nil =>
          rw [write, List.cons_append, value, skipSpace_cons (by decide)]
          rfl
      | cons f more =>
          have hwrite : write (.table (f :: more)) ++ rest =
              '\x7b' :: (writeMember f ++ (writeMembers more ++ rest)) := by
            simp [write, writeMember]
          have hlength : (write (.table (f :: more))).length =
              (writeMember f).length + (writeMembers more).length + 1 := by
            simp only [write, writeMember, List.length_append, List.length_cons]
            omega
          have hmembers : members fuel true [] (writeMember f ++ (writeMembers more ++ rest)) = _ :=
            members_write [] rest ih (by omega)
          obtain ⟨cs, hfirst⟩ : ∃ cs, writeMember f ++ (writeMembers more ++ rest) = '"' :: cs :=
            ⟨_, rfl⟩
          rw [hfirst] at hmembers
          rw [hwrite, hfirst, value_table, hmembers, reread, rereadFields_eq_map]
          rfl

/-- What is written as a text is read back from it. -/
theorem parse?_encode {t : Tree} (ht : Exact t) : parse? (encode t) = some (reread t) := by
  have hvalue := readsBack_of_exact ht ((write t).length + 1) [] (by omega) stops_nil
  rw [List.append_nil] at hvalue
  rw [parse?, encode, String.toList_ofList]
  simp only [hvalue]
  rfl

end ScrapeFleet.Json
