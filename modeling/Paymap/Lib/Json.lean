import Mathlib.Data.List.Basic

set_option autoImplicit false

/-! # JSON values and their texts

The values that a JavaScript program reads from a JSON text, and the text `JSON.stringify` writes for
them. An object lists its fields in the order in which they are kept, and the text keeps that order. A
number that is too large for a double is read as an infinite one and written as `null`, so `plain`
replaces these; apart from this the text says which value it is (`stringify_eq_iff`).

`Same` is equality of JSON values, which does not look at the order of fields.
-/

/-- A string is a sequence of code points. One half of a surrogate pair can stand alone. -/
inductive CodePoint where
  | scalar (c : Char)
  | surrogate (n : Fin 2048)
  deriving DecidableEq

abbrev Text := List CodePoint

def isNumberChar (c : Char) : Bool := c.isDigit || c = '-' || c = '+' || c = '.' || c = 'e'

def isNumeral : List Char → Bool
  | [] => false
  | c :: rest => (c.isDigit || c = '-') && rest.all isNumberChar

/-- A finite number, by the text JavaScript writes for it. -/
structure Numeral where
  text : List Char
  isNumeral_text : isNumeral text = true
  deriving DecidableEq

inductive JsonValue where
  | null
  | bool (b : Bool)
  | number (n : Numeral)
  | infinite (negative : Bool)
  | string (s : Text)
  | array (items : List JsonValue)
  | object (fields : List (Text × JsonValue))

/-! ## Strings -/

def unicodeEscape (n : ℕ) : List Char :=
  ['\\', 'u', Nat.digitChar (n / 4096 % 16), Nat.digitChar (n / 256 % 16),
    Nat.digitChar (n / 16 % 16), Nat.digitChar (n % 16)]

/-- The characters that have an escape of their own, with its letter. -/
def escapes : List (Char × Char) :=
  [('\x08', 'b'), ('\t', 't'), ('\n', 'n'), ('\x0c', 'f'), ('\r', 'r'), ('\x22', '\x22'), ('\\', '\\')]

namespace CodePoint

def quote : CodePoint → List Char
  | scalar c =>
      match escapes.lookup c with
      | some letter => ['\\', letter]
      | none => if c.toNat < 0x20 then unicodeEscape c.toNat else [c]
  | surrogate n => unicodeEscape (0xd800 + n)

end CodePoint

def quote (s : Text) : List Char := '\x22' :: (s.flatMap CodePoint.quote ++ ['\x22'])

/-! ### A string can be read back -/

/-- The value of a hexadecimal digit. -/
def hexValue (c : Char) : ℕ := ((List.range 16).find? fun n => Nat.digitChar n = c).getD 0

/-- The code point with this number. -/
def codePoint (n : ℕ) : CodePoint :=
  if h : 0xd800 ≤ n ∧ n < 0xe000 then .surrogate ⟨n - 0xd800, by omega⟩ else .scalar (Char.ofNat n)

/-- The first code point of what `quote` has written, and the rest. -/
def readCodePoint : List Char → Option (CodePoint × List Char)
  | '\\' :: letter :: rest =>
      match (escapes.map Prod.swap).lookup letter, rest with
      | some c, _ => some (.scalar c, rest)
      | none, a :: b :: c :: d :: rest =>
          some (codePoint (hexValue a * 4096 + hexValue b * 256 + hexValue c * 16 + hexValue d), rest)
      | none, _ => none
  | c :: rest => some (.scalar c, rest)
  | [] => none

theorem hexValue_digitChar {n : ℕ} (h : n < 16) : hexValue (Nat.digitChar n) = n := by
  have hall : ∀ n : Fin 16, hexValue (Nat.digitChar n) = n := by decide
  exact hall ⟨n, h⟩

/-- A code point has an escape with a letter, or with its number, or stands for itself. -/
theorem quote_cases (p : CodePoint) :
    (∃ c letter, p = .scalar c ∧ (c, letter) ∈ escapes ∧ p.quote = ['\\', letter]) ∨
    (∃ n, n < 65536 ∧ p = codePoint n ∧ p.quote = unicodeEscape n) ∨
    ∃ c, p = .scalar c ∧ escapes.lookup c = none ∧ p.quote = [c] := by
  cases p with
  | surrogate n =>
      have hn := n.isLt
      refine .inr (.inl ⟨0xd800 + n, by omega, ?_, rfl⟩)
      have hback : (n : ℕ) = 0xd800 + n - 0xd800 := by omega
      rw [codePoint, dif_pos (by omega)]
      exact congrArg CodePoint.surrogate (Fin.ext hback)
  | scalar c =>
      simp only [CodePoint.quote]
      cases hescape : escapes.lookup c with
      | some letter =>
          obtain ⟨l₁, l₂, hsplit, -⟩ := List.lookup_eq_some_iff.mp hescape
          refine .inl ⟨c, letter, rfl, ?_, rfl⟩
          rw [hsplit]
          simp
      | none =>
          by_cases hcontrol : c.toNat < 0x20
          · refine .inr (.inl ⟨c.toNat, by omega, ?_, if_pos hcontrol⟩)
            rw [codePoint, dif_neg (by omega), Char.ofNat_toNat]
          · exact .inr (.inr ⟨c, rfl, hescape, if_neg hcontrol⟩)

theorem readCodePoint_quote (p : CodePoint) (r : List Char) :
    readCodePoint (p.quote ++ r) = some (p, r) := by
  rcases quote_cases p with ⟨c, letter, rfl, hmem, hquote⟩ | ⟨n, hn, rfl, hquote⟩ |
    ⟨c, rfl, hescape, hquote⟩
  · -- each letter is the letter of one character
    have hback : ∀ q ∈ escapes, (escapes.map Prod.swap).lookup q.2 = some q.1 := by decide
    simp only [hquote, List.cons_append, List.nil_append, readCodePoint, hback _ hmem]
  · have hletter : (escapes.map Prod.swap).lookup 'u' = none := by decide
    have hvalue : n / 4096 % 16 * 4096 + n / 256 % 16 * 256 + n / 16 % 16 * 16 + n % 16 = n := by
      omega
    have hlt : ∀ m : ℕ, m % 16 < 16 := fun m => Nat.mod_lt m (by decide)
    simp only [hquote, unicodeEscape, List.cons_append, List.nil_append, readCodePoint, hletter,
      hexValue_digitChar (hlt _), hvalue]
  · have hplain : c ≠ '\\' := by
      rintro rfl
      exact absurd hescape (by decide)
    simp only [hquote, List.cons_append, List.nil_append]
    unfold readCodePoint
    split
    · rename_i heq
      exact absurd (List.cons.inj heq).1 hplain
    · rename_i c' rest _ heq
      obtain ⟨rfl, rfl⟩ := List.cons.inj heq
      rfl
    · rename_i heq
      cases heq

/-- No code point is written like the end of the string. -/
theorem quote_head (p : CodePoint) : ∃ c rest, p.quote = c :: rest ∧ c ≠ '\x22' := by
  rcases quote_cases p with ⟨c, letter, -, -, hquote⟩ | ⟨n, -, -, hquote⟩ | ⟨c, -, hescape, hquote⟩
  · exact ⟨_, _, hquote, by decide⟩
  · exact ⟨_, _, hquote, by decide⟩
  · refine ⟨_, _, hquote, ?_⟩
    rintro rfl
    exact absurd hescape (by decide)

theorem quote_append_inj {s s' : Text} {r r' : List Char} (h : quote s ++ r = quote s' ++ r') :
    s = s' ∧ r = r' := by
  unfold quote at h
  simp only [List.cons_append, List.append_assoc, List.nil_append] at h
  replace h := (List.cons.inj h).2
  induction s generalizing s' with
  | nil =>
      cases s' with
      | nil => exact ⟨rfl, (List.cons.inj h).2⟩
      | cons q s' =>
          obtain ⟨c, rest, hq, hc⟩ := quote_head q
          rw [List.flatMap_cons, hq] at h
          exact absurd (List.cons.inj h).1.symm hc
  | cons p s ih =>
      cases s' with
      | nil =>
          obtain ⟨c, rest, hp, hc⟩ := quote_head p
          rw [List.flatMap_cons, hp] at h
          exact absurd (List.cons.inj h).1 hc
      | cons q s' =>
          rw [List.flatMap_cons, List.flatMap_cons, List.append_assoc, List.append_assoc] at h
          -- both sides begin with the same code point
          have hread := congrArg readCodePoint h
          rw [readCodePoint_quote, readCodePoint_quote] at hread
          obtain ⟨rfl, hrest⟩ := Prod.mk.inj (Option.some.inj hread)
          obtain ⟨rfl, rfl⟩ := ih hrest
          exact ⟨rfl, rfl⟩

/-! ## Values -/

namespace JsonValue

/-- Induction over a value, through its items and fields. -/
@[elab_as_elim] theorem ind {P : JsonValue → Prop} (null : P .null) (bool : ∀ b, P (.bool b))
    (number : ∀ n, P (.number n)) (infinite : ∀ negative, P (.infinite negative))
    (string : ∀ s, P (.string s)) (array : ∀ items, (∀ item ∈ items, P item) → P (.array items))
    (object : ∀ fields, (∀ field ∈ fields, P field.2) → P (.object fields)) (a : JsonValue) : P a := by
  have hsize : ∀ n, ∀ a : JsonValue, sizeOf a < n → P a := by
    intro n
    induction n with
    | zero => exact fun a ha => absurd ha (Nat.not_lt_zero _)
    | succ n ih =>
        intro a ha
        cases a with
        | null => exact null
        | bool b => exact bool b
        | number m => exact number m
        | infinite negative => exact infinite negative
        | string s => exact string s
        | array items =>
            refine array items fun item hitem => ih item ?_
            have hlt := List.sizeOf_lt_of_mem hitem
            have hsum := JsonValue.array.sizeOf_spec items
            omega
        | object fields =>
            refine object fields fun field hfield => ih field.2 ?_
            have hlt := List.sizeOf_lt_of_mem hfield
            have hsum := JsonValue.object.sizeOf_spec fields
            have hpair : sizeOf field = 1 + sizeOf field.1 + sizeOf field.2 := rfl
            omega
  exact hsize _ a (Nat.lt_succ_self _)

mutual

/-- `JSON.stringify`. -/
def stringify : JsonValue → List Char
  | null => ['n', 'u', 'l', 'l']
  | bool true => ['t', 'r', 'u', 'e']
  | bool false => ['f', 'a', 'l', 's', 'e']
  | number n => n.text
  | infinite _ => ['n', 'u', 'l', 'l']
  | string s => quote s
  | array [] => ['[', ']']
  | array (item :: items) => '[' :: (stringify item ++ stringifyItems items)
  | object [] => ['{', '}']
  | object ((key, value) :: fields) =>
      '{' :: (quote key ++ ':' :: (stringify value ++ stringifyFields fields))

/-- The further items of an array, and its end. -/
def stringifyItems : List JsonValue → List Char
  | [] => [']']
  | item :: items => ',' :: (stringify item ++ stringifyItems items)

def stringifyFields : List (Text × JsonValue) → List Char
  | [] => ['}']
  | (key, value) :: fields =>
      ',' :: (quote key ++ ':' :: (stringify value ++ stringifyFields fields))

end

mutual

/-- The value that the text is read as again. -/
def plain : JsonValue → JsonValue
  | infinite _ => null
  | array items => array (plainItems items)
  | object fields => object (plainFields fields)
  | null => null
  | bool b => bool b
  | number n => number n
  | string s => string s

def plainItems : List JsonValue → List JsonValue
  | [] => []
  | item :: items => plain item :: plainItems items

def plainFields : List (Text × JsonValue) → List (Text × JsonValue)
  | [] => []
  | (key, value) :: fields => (key, plain value) :: plainFields fields

end

mutual

/-- Equality of values, whatever the order of fields is. -/
inductive Same : JsonValue → JsonValue → Prop where
  | null : Same null null
  | bool (b : Bool) : Same (bool b) (bool b)
  | number (n : Numeral) : Same (number n) (number n)
  | infinite (negative : Bool) : Same (infinite negative) (infinite negative)
  | string (s : Text) : Same (string s) (string s)
  | array {items items' : List JsonValue} (h : SameItems items items') : Same (array items) (array items')
  | object {fields ordered fields' : List (Text × JsonValue)} (hperm : fields.Perm ordered)
      (h : SameFields ordered fields') : Same (object fields) (object fields')

inductive SameItems : List JsonValue → List JsonValue → Prop where
  | nil : SameItems [] []
  | cons {item item' : JsonValue} {items items' : List JsonValue} (h : Same item item')
      (hrest : SameItems items items') : SameItems (item :: items) (item' :: items')

inductive SameFields : List (Text × JsonValue) → List (Text × JsonValue) → Prop where
  | nil : SameFields [] []
  | cons {key : Text} {value value' : JsonValue} {fields fields' : List (Text × JsonValue)}
      (h : Same value value') (hrest : SameFields fields fields') :
      SameFields ((key, value) :: fields) ((key, value') :: fields')

end

/-! ### The text says which value it is -/

inductive Kind where
  | null
  | bool (b : Bool)
  | number
  | string
  | array
  | object
  deriving DecidableEq

def kind : JsonValue → Kind
  | null => .null
  | infinite _ => .null
  | bool b => .bool b
  | number _ => .number
  | string _ => .string
  | array _ => .array
  | object _ => .object

/-- The first character of a value says of which kind it is. -/
def classify (c : Char) : Option Kind :=
  if c.isDigit || c = '-' then some .number
  else [('n', Kind.null), ('t', .bool true), ('f', .bool false), ('\x22', .string), ('[', .array),
    ('{', .object)].lookup c

theorem stringify_head (a : JsonValue) :
    ∃ c rest, a.stringify = c :: rest ∧ classify c = some a.kind := by
  cases a with
  | number n =>
      obtain ⟨text, htext⟩ := n
      cases text with
      | nil => cases htext
      | cons c rest =>
          have hfirst : c.isDigit || c = '-' := (Bool.and_eq_true_iff.mp htext).1
          exact ⟨c, rest, rfl, if_pos hfirst⟩
  | null => exact ⟨_, _, rfl, rfl⟩
  | infinite negative => exact ⟨_, _, rfl, rfl⟩
  | bool b => cases b <;> exact ⟨_, _, rfl, rfl⟩
  | string s => exact ⟨_, _, rfl, rfl⟩
  | array items => cases items <;> exact ⟨_, _, rfl, rfl⟩
  | object fields => rcases fields with _ | ⟨⟨key, value⟩, fields⟩ <;> exact ⟨_, _, rfl, rfl⟩

theorem classify_of_append {a : JsonValue} {c : Char} {r r' : List Char}
    (h : a.stringify ++ r = c :: r') : classify c = some a.kind := by
  obtain ⟨c', rest, hc', hkind⟩ := stringify_head a
  rw [hc'] at h
  exact (List.cons.inj h).1 ▸ hkind

theorem kind_eq_of_append {a b : JsonValue} {r r' : List Char}
    (h : a.stringify ++ r = b.stringify ++ r') : a.kind = b.kind := by
  obtain ⟨c, rest, hc, hkind⟩ := stringify_head b
  rw [hc] at h
  exact Option.some.inj ((classify_of_append h).symm.trans hkind)

/-- A number does not go on after it has ended. -/
def Ended (r : List Char) : Prop := ∀ c rest, r = c :: rest → isNumberChar c = false

theorem ended_cons {c : Char} {r : List Char} (hc : isNumberChar c = false) : Ended (c :: r) := by
  intro c' rest h
  rw [← (List.cons.inj h).1]
  exact hc

theorem ended_items (items : List JsonValue) (r : List Char) : Ended (stringifyItems items ++ r) := by
  cases items with
  | nil => exact ended_cons (by decide)
  | cons item items => exact ended_cons (by decide)

theorem ended_fields (fields : List (Text × JsonValue)) (r : List Char) :
    Ended (stringifyFields fields ++ r) := by
  rcases fields with _ | ⟨⟨key, value⟩, fields⟩
  · exact ended_cons (by decide)
  · exact ended_cons (by decide)

/-- Two runs of number characters, each of which has ended. -/
theorem append_inj_of_ended {l l' r r' : List Char} (hl : ∀ c ∈ l, isNumberChar c = true)
    (hl' : ∀ c ∈ l', isNumberChar c = true) (hr : Ended r) (hr' : Ended r')
    (h : l ++ r = l' ++ r') : l = l' ∧ r = r' := by
  induction l generalizing l' with
  | nil =>
      cases l' with
      | nil => exact ⟨rfl, h⟩
      | cons c l' =>
          have hend := hr c (l' ++ r') h
          rw [hl' c List.mem_cons_self] at hend
          cases hend
  | cons c l ih =>
      cases l' with
      | nil =>
          have hend := hr' c (l ++ r) h.symm
          rw [hl c List.mem_cons_self] at hend
          cases hend
      | cons c' l' =>
          obtain ⟨rfl, hrest⟩ := List.cons.inj h
          obtain ⟨rfl, rfl⟩ := ih (fun c hc => hl c (List.mem_cons_of_mem _ hc))
            (fun c hc => hl' c (List.mem_cons_of_mem _ hc)) hrest
          exact ⟨rfl, rfl⟩

theorem isNumberChar_of_mem (n : Numeral) {c : Char} (hc : c ∈ n.text) : isNumberChar c = true := by
  obtain ⟨text, htext⟩ := n
  cases text with
  | nil => cases hc
  | cons first rest =>
      obtain ⟨hfirst, hrest⟩ := Bool.and_eq_true_iff.mp htext
      rcases List.mem_cons.mp hc with rfl | hc
      · unfold isNumberChar
        rcases Bool.or_eq_true_iff.mp hfirst with hdigit | hsign
        · simp [hdigit]
        · simp [of_decide_eq_true hsign]
      · exact List.all_eq_true.mp hrest c hc

/-- The items of a list that begins with `sep`, like the elements themselves, can be told apart. -/
theorem stringifyItems_append_inj {items : List JsonValue}
    (ih : ∀ item ∈ items, ∀ (b : JsonValue) (r r' : List Char), Ended r → Ended r' →
      item.stringify ++ r = b.stringify ++ r' → item.plain = b.plain ∧ r = r')
    {items' : List JsonValue} {r r' : List Char}
    (h : stringifyItems items ++ r = stringifyItems items' ++ r') :
    plainItems items = plainItems items' ∧ r = r' := by
  induction items generalizing items' with
  | nil =>
      cases items' with
      | nil => exact ⟨rfl, (List.cons.inj h).2⟩
      | cons item' items' => cases h
  | cons item items ihitems =>
      cases items' with
      | nil => cases h
      | cons item' items' =>
          simp only [stringifyItems, List.cons_append, List.append_assoc] at h
          obtain ⟨hitem, hrest⟩ := ih item List.mem_cons_self item' _ _ (ended_items items r)
            (ended_items items' r') (List.cons.inj h).2
          obtain ⟨hitems, hr⟩ := ihitems (fun i hi => ih i (List.mem_cons_of_mem _ hi)) hrest
          exact ⟨by rw [plainItems, plainItems, hitem, hitems], hr⟩

theorem stringifyFields_append_inj {fields : List (Text × JsonValue)}
    (ih : ∀ field ∈ fields, ∀ (b : JsonValue) (r r' : List Char), Ended r → Ended r' →
      field.2.stringify ++ r = b.stringify ++ r' → field.2.plain = b.plain ∧ r = r')
    {fields' : List (Text × JsonValue)} {r r' : List Char}
    (h : stringifyFields fields ++ r = stringifyFields fields' ++ r') :
    plainFields fields = plainFields fields' ∧ r = r' := by
  induction fields generalizing fields' with
  | nil =>
      rcases fields' with _ | ⟨⟨key', value'⟩, fields'⟩
      · exact ⟨rfl, (List.cons.inj h).2⟩
      · cases h
  | cons field fields ihfields =>
      obtain ⟨key, value⟩ := field
      rcases fields' with _ | ⟨⟨key', value'⟩, fields'⟩
      · cases h
      · simp only [stringifyFields, List.cons_append, List.append_assoc] at h
        obtain ⟨rfl, hvalues⟩ := quote_append_inj (List.cons.inj h).2
        obtain ⟨hvalue, hrest⟩ := ih _ List.mem_cons_self value' _ _ (ended_fields fields r)
          (ended_fields fields' r') (List.cons.inj hvalues).2
        obtain ⟨hfields, hr⟩ := ihfields (fun f hf => ih f (List.mem_cons_of_mem _ hf)) hrest
        exact ⟨by rw [plainFields, plainFields, hvalue, hfields], hr⟩

/-- **The text says which value it is**, up to `plain`, and where it ends. -/
theorem stringify_append_inj (a b : JsonValue) (r r' : List Char) (hr : Ended r) (hr' : Ended r')
    (h : a.stringify ++ r = b.stringify ++ r') : a.plain = b.plain ∧ r = r' := by
  have hkind := kind_eq_of_append h
  induction a using JsonValue.ind generalizing b r r' with
  | null =>
      cases b with
      | null => exact ⟨rfl, by simpa [stringify] using h⟩
      | infinite negative => exact ⟨rfl, by simpa [stringify] using h⟩
      | _ => cases hkind
  | infinite negative =>
      cases b with
      | null => exact ⟨rfl, by simpa [stringify] using h⟩
      | infinite negative => exact ⟨rfl, by simpa [stringify] using h⟩
      | _ => cases hkind
  | bool x =>
      cases b with
      | bool y =>
          obtain rfl := Kind.bool.inj hkind
          exact ⟨rfl, List.append_cancel_left h⟩
      | _ => cases hkind
  | number n =>
      cases b with
      | number m =>
          obtain ⟨htext, hrest⟩ := append_inj_of_ended (fun c => isNumberChar_of_mem n)
            (fun c => isNumberChar_of_mem m) hr hr' h
          obtain ⟨text, _⟩ := n
          obtain ⟨text', _⟩ := m
          obtain rfl : text = text' := htext
          exact ⟨rfl, hrest⟩
      | _ => cases hkind
  | string s =>
      cases b with
      | string s' =>
          obtain ⟨rfl, hrest⟩ := quote_append_inj h
          exact ⟨rfl, hrest⟩
      | _ => cases hkind
  | array items ih =>
      cases b with
      | array items' =>
          rcases items with _ | ⟨item, items⟩ <;> rcases items' with _ | ⟨item', items'⟩
          · exact ⟨rfl, List.append_cancel_left h⟩
          · -- no item is written like the end of the array
            cases classify_of_append ((List.append_assoc _ _ _).symm.trans (List.cons.inj h).2.symm)
          · cases classify_of_append ((List.append_assoc _ _ _).symm.trans (List.cons.inj h).2)
          · have hitems : stringifyItems (item :: items) ++ r = stringifyItems (item' :: items') ++ r' :=
              congrArg (List.cons ',') (List.cons.inj h).2
            obtain ⟨hplain, hrest⟩ := stringifyItems_append_inj
              (fun i hi b r r' hr hr' h => ih i hi b r r' hr hr' h (kind_eq_of_append h)) hitems
            exact ⟨congrArg JsonValue.array hplain, hrest⟩
      | _ => cases hkind
  | object fields ih =>
      cases b with
      | object fields' =>
          rcases fields with _ | ⟨⟨key, value⟩, fields⟩ <;>
            rcases fields' with _ | ⟨⟨key', value'⟩, fields'⟩
          · exact ⟨rfl, List.append_cancel_left h⟩
          · cases (List.cons.inj h).2
          · cases (List.cons.inj h).2
          · have hfields : stringifyFields ((key, value) :: fields) ++ r
                = stringifyFields ((key', value') :: fields') ++ r' :=
              congrArg (List.cons ',') (List.cons.inj h).2
            obtain ⟨hplain, hrest⟩ := stringifyFields_append_inj
              (fun f hf b r r' hr hr' h => ih f hf b r r' hr hr' h (kind_eq_of_append h)) hfields
            exact ⟨congrArg JsonValue.object hplain, hrest⟩
      | _ => cases hkind

/-- Reading the text again does not change it. -/
theorem stringify_plain (a : JsonValue) : a.plain.stringify = a.stringify := by
  have hitems : ∀ {items : List JsonValue}, (∀ item ∈ items, item.plain.stringify = item.stringify) →
      stringifyItems (plainItems items) = stringifyItems items := by
    intro items ih
    induction items with
    | nil => rfl
    | cons item items ihitems =>
        rw [plainItems, stringifyItems, stringifyItems, ih item List.mem_cons_self,
          ihitems fun i hi => ih i (List.mem_cons_of_mem _ hi)]
  have hfields : ∀ {fields : List (Text × JsonValue)},
      (∀ field ∈ fields, field.2.plain.stringify = field.2.stringify) →
      stringifyFields (plainFields fields) = stringifyFields fields := by
    intro fields ih
    induction fields with
    | nil => rfl
    | cons field fields ihfields =>
        obtain ⟨key, value⟩ := field
        rw [plainFields, stringifyFields, stringifyFields, ih (key, value) List.mem_cons_self,
          ihfields fun f hf => ih f (List.mem_cons_of_mem _ hf)]
  induction a using JsonValue.ind with
  | array items ih =>
      cases items with
      | nil => rfl
      | cons item items =>
          exact congrArg (fun l => '[' :: l.tail) (hitems ih)
  | object fields ih =>
      rcases fields with _ | ⟨⟨key, value⟩, fields⟩
      · rfl
      · exact congrArg (fun l => '{' :: l.tail) (hfields ih)
  | _ => rfl

theorem stringify_eq_iff {a b : JsonValue} : a.stringify = b.stringify ↔ a.plain = b.plain := by
  constructor
  · intro h
    have hend : Ended [] := fun c rest h => by cases h
    exact (stringify_append_inj a b [] [] hend hend (by rw [h])).1
  · intro h
    rw [← stringify_plain a, h, stringify_plain b]

/-! ### Equality -/

theorem Same.refl (a : JsonValue) : Same a a := by
  induction a using JsonValue.ind with
  | null => exact .null
  | bool b => exact .bool b
  | number n => exact .number n
  | infinite negative => exact .infinite negative
  | string s => exact .string s
  | array items ih =>
      refine .array ?_
      induction items with
      | nil => exact .nil
      | cons item items ihitems =>
          exact .cons (ih item List.mem_cons_self)
            (ihitems fun i hi => ih i (List.mem_cons_of_mem _ hi))
  | object fields ih =>
      refine .object (List.Perm.refl fields) ?_
      induction fields with
      | nil => exact .nil
      | cons field fields ihfields =>
          exact .cons (ih field List.mem_cons_self)
            (ihfields fun f hf => ih f (List.mem_cons_of_mem _ hf))

end JsonValue
