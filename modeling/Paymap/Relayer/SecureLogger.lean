import Paymap.Lib.Js
import Paymap.Lib.Json
import Paymap.Lib.Replace

set_option autoImplicit false

/-! # Redaction of logs

`apps/relayer/src/secure-logger.ts`: before fields are written to a log, whatever is under a key that names
a secret is replaced by a marker, and in all other strings everything that looks like a secret.

A seed looks like a secret only if no letter, digit or underscore follows it, and the marker begins with a
bracket. So a seed that is directly followed by another secret is none to begin with, and is one as soon as
that secret has been replaced, behind the scan (`hasSecret_redact`). And keys are written as they are.
What is logged is free of secrets, and would not be changed by a second redaction, exactly if neither
happens (`redaction_complete_iff`).
-/

namespace Paymap.SecureLogger

open Replace (Piece Proper replaceAll scan shown)

/-! ## Patterns -/

def ofString (s : String) : Text := s.toList.map .scalar

def CodePoint.satisfies (p : Char → Bool) : CodePoint → Bool
  | .scalar c => p c
  | .surrogate _ => false

/-- `\s`. -/
def isSpace (c : CodePoint) : Bool := CodePoint.satisfies Js.isSpace c

/-- `\w`. -/
def isWordChar (c : CodePoint) : Bool := CodePoint.satisfies (fun c => c.isAlphanum || c = '_') c

/-- `[A-Z2-7]`. -/
def isSeedChar (c : CodePoint) : Bool :=
  CodePoint.satisfies (fun c => c.isUpper || decide ('2' ≤ c ∧ c ≤ '7')) c

/-- `[A-Za-z0-9_-]`. -/
def isTokenChar (c : CodePoint) : Bool :=
  CodePoint.satisfies (fun c => c.isAlphanum || c = '_' || c = '-') c

/-- `\b`, behind a word character. -/
def atBoundary (rest : Text) : Bool := rest.head?.all fun c => !isWordChar c

/-- What follows the text `p`, where a text begins with it. -/
def after (p t : Text) : Option Text := if p <+: t then some (t.drop p.length) else none

def bearerText : Text := ofString "Bearer"

/-- `Bearer\s+\S+`. -/
def bearerLength (t : Text) : Option ℕ :=
  (after bearerText t).bind fun rest =>
    let spaces := rest.takeWhile isSpace
    let word := (rest.dropWhile isSpace).takeWhile fun c => !isSpace c
    if spaces ≠ [] ∧ word ≠ [] then some (bearerText.length + spaces.length + word.length) else none

/-- `S[A-Z2-7]{55}`. -/
def IsSeed (s : Text) : Prop :=
  s.head? = some (.scalar 'S') ∧ s.length = 56 ∧ ∀ c ∈ s.tail, isSeedChar c = true

instance (s : Text) : Decidable (IsSeed s) := inferInstanceAs (Decidable (_ ∧ _ ∧ _))

/-- `S[A-Z2-7]{55}\b`. -/
def seedLength (t : Text) : Option ℕ :=
  if IsSeed (t.take 56) ∧ atBoundary (t.drop 56) then some 56 else none

/-- A prefix and `[A-Za-z0-9_-]+`. -/
def tokenLength (p t : Text) : Option ℕ :=
  (after p t).bind fun rest =>
    let key := rest.takeWhile isTokenChar
    if key ≠ [] then some (p.length + key.length) else none

/-- The alternatives `sk_live_`, `sk_test_` and `whsec_`. -/
def tokenPrefixes : List Text := [ofString "sk_live_", ofString "sk_test_", ofString "whsec_"]

/-- `SECRET_VALUE`: the length of the match at the head of a text. -/
def secretValue (t : Text) : Option ℕ :=
  (bearerLength t).or ((seedLength t).or (tokenPrefixes.findSome? fun p => tokenLength p t))

def redacted : Text := ofString "[REDACTED]"

/-- The letters of `SENSITIVE_KEY` that are accepted in either case. -/
def foldCase : CodePoint → CodePoint
  | .scalar c => .scalar c.toLower
  | .surrogate n => .surrogate n

/-- The alternatives of `SENSITIVE_KEY`, in lower case. -/
def sensitiveKeys : List Text :=
  ["authorization", "apikey", "apikeyhashsecret", "keyhash", "password", "privatekey",
    "relayersecretkey", "secret", "seed", "token", "webhookencryptionkey", "webhooksecret"].map ofString

/-- `SENSITIVE_KEY`. -/
def isSensitiveKey (key : Text) : Bool := sensitiveKeys.contains (key.map foldCase)

/-! ## The redaction -/

/-- `value.replace(SECRET_VALUE, REDACTED)`. -/
def redactText (t : Text) : Text := replaceAll secretValue redacted t

mutual

/-- `redactLogFields`, of a value that is not under a sensitive key. -/
def redactValue : JsonValue → JsonValue
  | .string s => .string (redactText s)
  | .array items => .array (redactItems items)
  | .object fields => .object (redactFields fields)
  | .null => .null
  | .bool b => .bool b
  | .number n => .number n
  | .infinite negative => .infinite negative

def redactItems : List JsonValue → List JsonValue
  | [] => []
  | item :: items => redactValue item :: redactItems items

def redactFields : List (Text × JsonValue) → List (Text × JsonValue)
  | [] => []
  | (key, value) :: fields =>
      (key, if isSensitiveKey key then .string redacted else redactValue value) :: redactFields fields

end

/-- `redactLogFields`. The empty key is none. -/
def redactLogFields (value : JsonValue) (key : Option Text) : JsonValue :=
  if key.any fun k => k ≠ [] && isSensitiveKey k then .string redacted else redactValue value

/-! ## What a secret is -/

/-- The first text matches `SECRET_VALUE` where the second one follows it. -/
inductive IsSecret : Text → Text → Prop where
  | bearer {spaces word rest : Text} (hspaces : spaces ≠ [] ∧ ∀ c ∈ spaces, isSpace c = true)
      (hword : word ≠ [] ∧ ∀ c ∈ word, isSpace c = false) :
      IsSecret (bearerText ++ spaces ++ word) rest
  | seed {s rest : Text} (hseed : IsSeed s) (hend : atBoundary rest = true) : IsSecret s rest
  | token {p key rest : Text} (hp : p ∈ tokenPrefixes)
      (hkey : key ≠ [] ∧ ∀ c ∈ key, isTokenChar c = true) : IsSecret (p ++ key) rest

def Begins (t : Text) : Prop := ∃ m rest, t = m ++ rest ∧ IsSecret m rest

/-- A substring of the text matches `SECRET_VALUE`. -/
def HasSecret (t : Text) : Prop := ∃ before m rest, t = before ++ (m ++ rest) ∧ IsSecret m rest

section

variable {t u p rest : Text} {c : CodePoint} {n : ℕ}

theorem after_eq_some : after p t = some rest ↔ t = p ++ rest := by
  unfold after
  split_ifs with hp
  · obtain ⟨rest', rfl⟩ := hp
    rw [List.drop_left, Option.some.injEq, List.append_cancel_left_eq]
  · refine iff_of_false (by simp) ?_
    rintro rfl
    exact hp (List.prefix_append p rest)

theorem takeWhile_append_cons {q : CodePoint → Bool} (hu : ∀ d ∈ u, q d = true) (hc : q c = false) :
    (u ++ c :: rest).takeWhile q = u ∧ (u ++ c :: rest).dropWhile q = c :: rest := by
  constructor
  · rw [List.takeWhile_append_of_pos hu, List.takeWhile_cons_of_neg (by simp [hc]), List.append_nil]
  · rw [List.dropWhile_append_of_pos hu, List.dropWhile_cons_of_neg (by simp [hc])]

theorem bearerLength_some (h : bearerLength t = some n) :
    ∃ m rest, t = m ++ rest ∧ m.length = n ∧ IsSecret m rest := by
  unfold bearerLength at h
  obtain ⟨rest, hafter, h⟩ := Option.bind_eq_some_iff.mp h
  simp only at h
  split_ifs at h with hne
  cases h
  have hspaces : ∀ c ∈ rest.takeWhile isSpace, isSpace c = true := fun c hc => List.mem_takeWhile_imp hc
  have hword : ∀ c ∈ (rest.dropWhile isSpace).takeWhile fun c => !isSpace c, isSpace c = false :=
    fun c hc => by simpa using List.mem_takeWhile_imp hc
  refine ⟨_, (rest.dropWhile isSpace).dropWhile fun c => !isSpace c, ?_, ?_,
    .bearer ⟨hne.1, hspaces⟩ ⟨hne.2, hword⟩⟩
  · calc t = bearerText ++ rest := after_eq_some.mp hafter
      _ = bearerText ++ (rest.takeWhile isSpace ++ rest.dropWhile isSpace) := by
          rw [List.takeWhile_append_dropWhile]
      _ = bearerText ++ (rest.takeWhile isSpace ++ (((rest.dropWhile isSpace).takeWhile fun c => !isSpace c)
            ++ (rest.dropWhile isSpace).dropWhile fun c => !isSpace c)) := by
          rw [List.takeWhile_append_dropWhile (p := fun c => !isSpace c)]
      _ = _ := by simp only [List.append_assoc]
  · simp only [List.length_append]

theorem tokenLength_some (hp : p ∈ tokenPrefixes) (h : tokenLength p t = some n) :
    ∃ m rest, t = m ++ rest ∧ m.length = n ∧ IsSecret m rest := by
  unfold tokenLength at h
  obtain ⟨rest, hafter, h⟩ := Option.bind_eq_some_iff.mp h
  simp only at h
  split_ifs at h with hne
  cases h
  have hkey : ∀ c ∈ rest.takeWhile isTokenChar, isTokenChar c = true :=
    fun c hc => List.mem_takeWhile_imp hc
  refine ⟨_, rest.dropWhile isTokenChar, ?_, ?_, .token hp ⟨hne, hkey⟩⟩
  · rw [List.append_assoc, List.takeWhile_append_dropWhile]
    exact after_eq_some.mp hafter
  · rw [List.length_append]

theorem seedLength_some (h : seedLength t = some n) :
    ∃ m rest, t = m ++ rest ∧ m.length = n ∧ IsSecret m rest := by
  unfold seedLength at h
  split_ifs at h with hseed
  cases h
  exact ⟨t.take 56, t.drop 56, (List.take_append_drop 56 t).symm, hseed.1.2.1, .seed hseed.1 hseed.2⟩

/-- **A match is a secret.** -/
theorem secretValue_some (h : secretValue t = some n) :
    ∃ m rest, t = m ++ rest ∧ m.length = n ∧ IsSecret m rest := by
  unfold secretValue at h
  rcases Option.or_eq_some_iff.mp h with h | ⟨-, h⟩
  · exact bearerLength_some h
  rcases Option.or_eq_some_iff.mp h with h | ⟨-, h⟩
  · exact seedLength_some h
  obtain ⟨p, hp, hlength⟩ := List.exists_of_findSome?_eq_some h
  exact tokenLength_some hp hlength

/-! ## The shortest beginning of a secret -/

/-- How a text begins that begins with a secret. -/
inductive Start : Text → Prop where
  | bearer {spaces rest : Text} {c : CodePoint}
      (hspaces : spaces ≠ [] ∧ ∀ c ∈ spaces, isSpace c = true) (hword : isSpace c = false) :
      Start (bearerText ++ spaces ++ c :: rest)
  | seed {s rest : Text} (hseed : IsSeed s) (hend : atBoundary rest = true) : Start (s ++ rest)
  | token {p rest : Text} {c : CodePoint} (hp : p ∈ tokenPrefixes) (hkey : isTokenChar c = true) :
      Start (p ++ c :: rest)

theorem Begins.start (h : Begins t) : Start t := by
  obtain ⟨m, rest, rfl, hsecret⟩ := h
  cases hsecret with
  | bearer hspaces hword =>
      rename_i spaces word
      cases word with
      | nil => exact absurd rfl hword.1
      | cons c word =>
          rw [List.append_assoc, List.cons_append]
          exact .bearer hspaces (hword.2 c List.mem_cons_self)
  | seed hseed hend => exact .seed hseed hend
  | token hp hkey =>
      rename_i p key
      cases key with
      | nil => exact absurd rfl hkey.1
      | cons c key =>
          rw [List.append_assoc, List.cons_append]
          exact .token hp (hkey.2 c List.mem_cons_self)

/-- **A secret is matched.** -/
theorem Start.isSome (h : Start t) : (secretValue t).isSome = true := by
  unfold secretValue
  cases h with
  | bearer hspaces hword =>
      rename_i spaces rest c
      have hafter : after bearerText (bearerText ++ spaces ++ c :: rest) = some (spaces ++ c :: rest) :=
        after_eq_some.mpr (List.append_assoc _ _ _)
      obtain ⟨htake, hdrop⟩ : (spaces ++ c :: rest).takeWhile isSpace = spaces ∧
          (spaces ++ c :: rest).dropWhile isSpace = c :: rest :=
        takeWhile_append_cons hspaces.2 hword
      have hlength : (bearerLength (bearerText ++ spaces ++ c :: rest)).isSome = true := by
        unfold bearerLength
        rw [hafter, Option.bind_some]
        simp [htake, hdrop, hspaces.1, hword]
      obtain ⟨n, hn⟩ := Option.isSome_iff_exists.mp hlength
      rw [hn]
      rfl
  | seed hseed hend =>
      rename_i s rest
      have hlength : seedLength (s ++ rest) = some 56 := by
        unfold seedLength
        rw [List.take_left' hseed.2.1, List.drop_left' hseed.2.1, if_pos ⟨hseed, hend⟩]
      rw [hlength]
      cases bearerLength (s ++ rest) <;> rfl
  | token hp hkey =>
      rename_i p rest c
      have hlength : (tokenLength p (p ++ c :: rest)).isSome = true := by
        unfold tokenLength
        rw [after_eq_some.mpr rfl, Option.bind_some]
        simp [hkey]
      have hfound : (tokenPrefixes.findSome? fun p' => tokenLength p' (p ++ c :: rest)).isSome = true :=
        List.findSome?_isSome_iff.mpr ⟨p, hp, hlength⟩
      cases bearerLength (p ++ c :: rest) with
      | some n => rfl
      | none =>
          cases seedLength (p ++ c :: rest) with
          | some n => rfl
          | none => exact hfound

theorem secretValue_eq_none : secretValue t = none ↔ ¬ Begins t := by
  constructor
  · intro hnone hbegins
    have hsome := hbegins.start.isSome
    rw [hnone] at hsome
    cases hsome
  · intro hbegins
    cases hvalue : secretValue t with
    | none => rfl
    | some n =>
        obtain ⟨m, rest, ht, -, hsecret⟩ := secretValue_some hvalue
        exact absurd ⟨m, rest, ht, hsecret⟩ hbegins

end

/-! ## In front of the marker -/

/-- The characters that a secret begins with. -/
def initials : Text := ofString "BSsw"

def bracket : CodePoint := .scalar '['

section

variable {t u p rest : Text} {c : CodePoint}

theorem tokenPrefixes_head (hp : p ∈ tokenPrefixes) : ∃ c rest, p = c :: rest ∧ c ∈ initials := by
  simp only [tokenPrefixes, List.mem_cons, List.not_mem_nil, or_false] at hp
  rcases hp with rfl | rfl | rfl
  · exact ⟨.scalar 's', _, rfl, by decide⟩
  · exact ⟨.scalar 's', _, rfl, by decide⟩
  · exact ⟨.scalar 'w', _, rfl, by decide⟩

theorem IsSecret.head {m : Text} (h : IsSecret m rest) : ∃ c m', m = c :: m' ∧ c ∈ initials := by
  cases h with
  | bearer hspaces hword => exact ⟨.scalar 'B', _, rfl, by decide⟩
  | seed hseed hend =>
      cases m with
      | nil => cases hseed.1
      | cons c s =>
          have hc : c = .scalar 'S' := Option.some.inj hseed.1
          exact ⟨c, s, rfl, hc ▸ by decide⟩
  | token hp hkey =>
      obtain ⟨c, rest, rfl, hc⟩ := tokenPrefixes_head hp
      exact ⟨c, _, rfl, hc⟩

theorem Begins.head (h : Begins t) : ∃ c rest, t = c :: rest ∧ c ∈ initials := by
  obtain ⟨m, rest, rfl, hsecret⟩ := h
  obtain ⟨c, m', rfl, hc⟩ := hsecret.head
  exact ⟨c, m' ++ rest, rfl, hc⟩

theorem Start.begins (h : Start t) : Begins t := by
  obtain ⟨n, hn⟩ := Option.isSome_iff_exists.mp h.isSome
  obtain ⟨m, rest, ht, -, hsecret⟩ := secretValue_some hn
  exact ⟨m, rest, ht, hsecret⟩

theorem begins_iff : Begins t ↔ Start t := ⟨Begins.start, Start.begins⟩

/-- What begins a secret may stand in a secret of each other kind. -/
theorem initial_classes (hc : c ∈ initials) : isSpace c = false ∧ isWordChar c = true := by
  have hall : ∀ c ∈ initials, isSpace c = false ∧ isWordChar c = true := by decide
  exact hall c hc

/-- What has no bracket and is followed by anything ends before the bracket. -/
theorem prefix_of_notMem {l r : Text} (h : l ++ rest = u ++ bracket :: r) (hl : bracket ∉ l) :
    ∃ v, u = l ++ v ∧ rest = v ++ bracket :: r := by
  rcases List.append_eq_append_iff.mp h with ⟨v, hu, hrest⟩ | ⟨v, hv, hr⟩
  · exact ⟨v, hu, hrest⟩
  · cases v with
    | nil => exact ⟨[], by simpa using hv.symm, by simpa using hr.symm⟩
    | cons b v =>
        rw [hv, (List.cons.inj hr).1] at hl
        exact absurd (List.mem_append_right _ List.mem_cons_self) hl

theorem IsSeed.bracket_notMem (h : IsSeed u) : bracket ∉ u := by
  cases u with
  | nil => simp
  | cons c s =>
      intro hmem
      rcases List.mem_cons.mp hmem with hc | hs
      · rw [← hc] at h
        exact absurd (Option.some.inj h.1) (by decide)
      · exact absurd (h.2.2 bracket hs) (by decide)

theorem IsSeed.ne_nil (h : IsSeed u) : u ≠ [] := by
  rintro rfl
  cases h.1

/-- **In front of the marker** a text begins with a secret that did not in front of the match, exactly
if it is a seed. -/
theorem start_bracket_iff {r : Text} (hc : c ∈ initials) (hnone : ¬ Start (u ++ c :: rest)) :
    Start (u ++ bracket :: r) ↔ IsSeed u := by
  constructor
  · intro h
    generalize ht : u ++ bracket :: r = t at h
    cases h with
    | bearer hspaces hword =>
        rename_i spaces rest' d
        have hl : bracket ∉ bearerText ++ spaces := by
          intro hmem
          rcases List.mem_append.mp hmem with hfirst | hspace
          · exact absurd hfirst (by decide)
          · exact absurd (hspaces.2 bracket hspace) (by decide)
        obtain ⟨v, rfl, hrest⟩ := prefix_of_notMem ht.symm hl
        refine absurd ?_ hnone
        cases v with
        | nil =>
            rw [List.append_nil]
            exact .bearer hspaces (initial_classes hc).1
        | cons d' v =>
            have hd : d = d' := (List.cons.inj hrest).1
            rw [List.append_assoc, List.cons_append]
            exact .bearer hspaces (hd ▸ hword)
    | seed hseed hend =>
        rename_i s rest'
        obtain ⟨v, rfl, hrest⟩ := prefix_of_notMem ht.symm hseed.bracket_notMem
        cases v with
        | nil => rwa [List.append_nil]
        | cons d v =>
            refine absurd ?_ hnone
            rw [List.append_assoc]
            rw [hrest] at hend
            exact .seed hseed hend
    | token hp hkey =>
        rename_i p rest' d
        have hl : bracket ∉ p ++ [d] := by
          intro hmem
          rcases List.mem_append.mp hmem with hprefix | hd
          · have hall : ∀ p ∈ tokenPrefixes, bracket ∉ p := by decide
            exact hall p hp hprefix
          · rw [← List.mem_singleton.mp hd] at hkey
            exact absurd hkey (by decide)
        have hsplit : (p ++ [d]) ++ rest' = u ++ bracket :: r := by
          rw [ht, List.append_assoc]
          rfl
        obtain ⟨v, rfl, -⟩ := prefix_of_notMem hsplit hl
        refine absurd ?_ hnone
        simp only [List.append_assoc, List.cons_append]
        exact .token hp hkey
  · intro hseed
    exact .seed hseed (show (!isWordChar bracket) = true by decide)

/-! ## Secrets in a text -/

theorem hasSecret_nil : ¬ HasSecret [] := by
  rintro ⟨before, m, rest, ht, hsecret⟩
  obtain ⟨c, m', rfl, -⟩ := hsecret.head
  cases (List.append_eq_nil_iff.mp ht.symm).2

theorem hasSecret_cons : HasSecret (c :: t) ↔ Start (c :: t) ∨ HasSecret t := by
  rw [← begins_iff]
  constructor
  · rintro ⟨before, m, rest, ht, hsecret⟩
    cases before with
    | nil => exact .inl ⟨m, rest, ht, hsecret⟩
    | cons b before => exact .inr ⟨before, m, rest, (List.cons.inj ht).2, hsecret⟩
  · rintro (⟨m, rest, ht, hsecret⟩ | ⟨before, m, rest, rfl, hsecret⟩)
    · exact ⟨[], m, rest, ht, hsecret⟩
    · exact ⟨c :: before, m, rest, rfl, hsecret⟩

/-- A text has a secret if one of its ends begins with one. -/
theorem hasSecret_iff : HasSecret t ↔ ∃ v, v <:+ t ∧ Begins v := by
  constructor
  · rintro ⟨before, m, rest, rfl, hsecret⟩
    exact ⟨m ++ rest, List.suffix_append before _, m, rest, rfl, hsecret⟩
  · rintro ⟨_, ⟨before, rfl⟩, m, rest, rfl, hsecret⟩
    exact ⟨before, m, rest, rfl, hsecret⟩

/-- The marker neither is nor begins a secret. -/
theorem hasSecret_redacted : HasSecret (redacted ++ t) ↔ HasSecret t := by
  have hskip : ∀ l : Text, (∀ c ∈ l, c ∉ initials) → (HasSecret (l ++ t) ↔ HasSecret t) := by
    intro l hl
    induction l with
    | nil => exact Iff.rfl
    | cons c l ih =>
        rw [List.cons_append, hasSecret_cons, ih fun d hd => hl d (List.mem_cons_of_mem _ hd)]
        refine or_iff_right fun hstart => ?_
        obtain ⟨c', rest', hhead, hc'⟩ := hstart.begins.head
        exact hl c List.mem_cons_self ((List.cons.inj hhead).1 ▸ hc')
  exact hskip redacted (by decide)

/-- 56 characters that look like a seed are left, and directly behind them something is replaced. -/
def Exposed (t : Text) : Prop :=
  ∃ l s m ps, scan secretValue t = l ++ s.map .kept ++ .hit m :: ps ∧ IsSeed s

theorem proper_secretValue : Proper secretValue := by
  intro t n h
  obtain ⟨m, rest, rfl, rfl, hsecret⟩ := secretValue_some h
  obtain ⟨c, m', rfl, -⟩ := hsecret.head
  rw [List.length_append]
  exact ⟨Nat.succ_pos _, Nat.le_add_right _ _⟩

/-- What is replaced is a secret. -/
theorem isSecret_of_hit {m : Text} (h : secretValue (m ++ rest) = some m.length) : IsSecret m rest := by
  obtain ⟨m', rest', heq, hlength, hsecret⟩ := secretValue_some h
  obtain ⟨rfl, rfl⟩ := List.append_inj heq hlength.symm
  exact hsecret

theorem exposed_kept (hfind : secretValue (c :: t) = none) :
    Exposed (c :: t) ↔
      (∃ k m ps, scan secretValue t = k.map .kept ++ .hit m :: ps ∧ IsSeed (c :: k)) ∨ Exposed t := by
  unfold Exposed
  rw [Replace.scan_kept hfind]
  constructor
  · rintro ⟨l, s, m, ps, hscan, hseed⟩
    cases l with
    | nil =>
        cases s with
        | nil => exact absurd rfl hseed.ne_nil
        | cons c' s =>
            simp only [List.nil_append, List.map_cons, List.cons_append, List.cons.injEq,
              Piece.kept.injEq] at hscan
            exact .inl ⟨s, m, ps, hscan.2, hscan.1 ▸ hseed⟩
    | cons piece l => exact .inr ⟨l, s, m, ps, (List.cons.inj hscan).2, hseed⟩
  · rintro (⟨k, m, ps, hscan, hseed⟩ | ⟨l, s, m, ps, hscan, hseed⟩)
    · exact ⟨[], c :: k, m, ps, congrArg (.kept c :: ·) hscan, hseed⟩
    · exact ⟨.kept c :: l, s, m, ps, congrArg (.kept c :: ·) hscan, hseed⟩

theorem exposed_hit {m : Text} (hm : m ≠ []) (hfind : secretValue (m ++ t) = some m.length) :
    Exposed (m ++ t) ↔ Exposed t := by
  unfold Exposed
  rw [Replace.scan_hit hm hfind]
  constructor
  · rintro ⟨l, s, m', ps, hscan, hseed⟩
    cases l with
    | nil =>
        cases s with
        | nil => exact absurd rfl hseed.ne_nil
        | cons c' s => cases hscan
    | cons piece l => exact ⟨l, s, m', ps, (List.cons.inj hscan).2, hseed⟩
  · rintro ⟨l, s, m', ps, hscan, hseed⟩
    exact ⟨.hit m :: l, s, m', ps, congrArg (.hit m :: ·) hscan, hseed⟩

/-- In front of what is left, a secret begins exactly if that is a seed with a match behind it. -/
theorem start_cons_shown_iff (hfind : secretValue (c :: t) = none) :
    Start (c :: shown redacted (scan secretValue t)) ↔
      ∃ k m ps, scan secretValue t = k.map .kept ++ .hit m :: ps ∧ IsSeed (c :: k) := by
  have hnone : ¬ Start (c :: t) := fun h => secretValue_eq_none.mp hfind h.begins
  rcases Replace.scan_cases proper_secretValue t with hall | ⟨k, m, t', rfl, hm, hmatch, hscan⟩
  · rw [hall, Replace.shown_map_kept]
    refine iff_of_false hnone ?_
    rintro ⟨k, m, ps, hsplit, -⟩
    have hmem : Piece.hit m ∈ t.map Piece.kept := by
      rw [hsplit]
      exact List.mem_append_right _ List.mem_cons_self
    obtain ⟨d, -, hd⟩ := List.mem_map.mp hmem
    cases hd
  · obtain ⟨d, m', rfl, hd⟩ := (isSecret_of_hit hmatch).head
    rw [hscan, Replace.shown_append, Replace.shown_map_kept, Replace.shown_hit]
    refine (start_bracket_iff (u := c :: k) hd hnone).trans ?_
    constructor
    · exact fun hseed => ⟨k, d :: m', _, rfl, hseed⟩
    · rintro ⟨k', m'', ps, hsplit, hseed⟩
      rwa [Replace.kept_append_hit_inj hsplit]

/-- **A redacted text has a secret** exactly if a seed was left in front of a match. -/
theorem hasSecret_redactText (t : Text) : HasSecret (redactText t) ↔ Exposed t := by
  show HasSecret (shown redacted (scan secretValue t)) ↔ Exposed t
  induction t using Replace.scan_induction proper_secretValue with
  | nil =>
      refine iff_of_false hasSecret_nil ?_
      rintro ⟨l, s, m, ps, hscan, -⟩
      exact List.append_ne_nil_of_right_ne_nil _ (List.cons_ne_nil _ _) hscan.symm
  | kept c t hfind ih =>
      rw [Replace.scan_kept hfind, Replace.shown_kept, hasSecret_cons, exposed_kept hfind, ih,
        start_cons_shown_iff hfind]
  | hit m t hm hfind ih =>
      rw [Replace.scan_hit hm hfind, Replace.shown_hit, hasSecret_redacted, exposed_hit hm hfind, ih]

/-- **A text is left as it is** exactly if it has no secret. -/
theorem redactText_eq_self_iff : redactText t = t ↔ ¬ HasSecret t := by
  rw [hasSecret_iff]
  constructor
  · rintro h ⟨v, hv, hbegins⟩
    obtain ⟨d, v', rfl, -⟩ := hbegins.head
    have hmarker : redacted.countP (fun c => decide (c ∈ initials)) = 0 := by decide
    have hcount := Replace.countP_replaceAll proper_secretValue hmarker ?_ t
    · exact secretValue_eq_none.mp (hcount.2 (congrArg _ h) _ hv (List.cons_ne_nil _ _)) hbegins
    · intro m rest hm hmatch
      obtain ⟨c, m', rfl, hc⟩ := (isSecret_of_hit hmatch).head
      exact List.countP_pos_iff.mpr ⟨c, List.mem_cons_self, decide_eq_true hc⟩
  · intro h
    exact Replace.replaceAll_eq_self fun v hv =>
      secretValue_eq_none.mpr fun hbegins => h ⟨v, hv, hbegins⟩

end

/-! ## Values -/

/-- The first value is somewhere in the second one. -/
inductive Within : JsonValue → JsonValue → Prop where
  | self (v : JsonValue) : Within v v
  | item {x item : JsonValue} {items : List JsonValue} (hitem : item ∈ items) (h : Within x item) :
      Within x (.array items)
  | field {x : JsonValue} {field : Text × JsonValue} {fields : List (Text × JsonValue)}
      (hfield : field ∈ fields) (h : Within x field.2) : Within x (.object fields)

/-- The first value is somewhere in the second one, under no sensitive key. -/
inductive Reached : JsonValue → JsonValue → Prop where
  | self (v : JsonValue) : Reached v v
  | item {x item : JsonValue} {items : List JsonValue} (hitem : item ∈ items) (h : Reached x item) :
      Reached x (.array items)
  | field {x : JsonValue} {field : Text × JsonValue} {fields : List (Text × JsonValue)}
      (hfield : field ∈ fields) (hkey : isSensitiveKey field.1 = false) (h : Reached x field.2) :
      Reached x (.object fields)

/-- What is clean of a value itself: a string and the keys of an object have no secret, and under a
sensitive key is the marker. -/
def CleanHere : JsonValue → Prop
  | .string s => ¬ HasSecret s
  | .object fields => ∀ field ∈ fields, ¬ HasSecret field.1 ∧
      (isSensitiveKey field.1 = true → field.2 = .string redacted)
  | _ => True

/-- No string and no key has a secret, at any depth, and under each sensitive key is the marker. -/
def Clean (v : JsonValue) : Prop := ∀ x, Within x v → CleanHere x

/-- What is safe of a value itself: no secret of a string exposes another one, and no key has one. -/
def SafeHere : JsonValue → Prop
  | .string s => ¬ Exposed s
  | .object fields => ∀ field ∈ fields, ¬ HasSecret field.1
  | _ => True

def Safe (v : JsonValue) : Prop := ∀ x, Reached x v → SafeHere x

/-- The second text is the first one, with secrets of it replaced by the marker. -/
inductive KeepsText : Text → Text → Prop where
  | nil : KeepsText [] []
  | kept (c : CodePoint) {t t' : Text} (h : KeepsText t t') : KeepsText (c :: t) (c :: t')
  | secret {m t t' : Text} (hsecret : IsSecret m t) (h : KeepsText t t') :
      KeepsText (m ++ t) (redacted ++ t')

mutual

/-- The second value is the first one, but for secrets in strings and what is under sensitive keys. -/
inductive Keeps : JsonValue → JsonValue → Prop where
  | null : Keeps .null .null
  | bool (b : Bool) : Keeps (.bool b) (.bool b)
  | number (n : Numeral) : Keeps (.number n) (.number n)
  | infinite (negative : Bool) : Keeps (.infinite negative) (.infinite negative)
  | string {s s' : Text} (h : KeepsText s s') : Keeps (.string s) (.string s')
  | array {items items' : List JsonValue} (h : KeepsItems items items') :
      Keeps (.array items) (.array items')
  | object {fields fields' : List (Text × JsonValue)} (h : KeepsFields fields fields') :
      Keeps (.object fields) (.object fields')

inductive KeepsItems : List JsonValue → List JsonValue → Prop where
  | nil : KeepsItems [] []
  | cons {item item' : JsonValue} {items items' : List JsonValue} (h : Keeps item item')
      (hrest : KeepsItems items items') : KeepsItems (item :: items) (item' :: items')

inductive KeepsFields : List (Text × JsonValue) → List (Text × JsonValue) → Prop where
  | nil : KeepsFields [] []
  | sensitive {key : Text} (value value' : JsonValue) {fields fields' : List (Text × JsonValue)}
      (hkey : isSensitiveKey key = true) (hrest : KeepsFields fields fields') :
      KeepsFields ((key, value) :: fields) ((key, value') :: fields')
  | cons {key : Text} {value value' : JsonValue} {fields fields' : List (Text × JsonValue)}
      (h : Keeps value value') (hrest : KeepsFields fields fields') :
      KeepsFields ((key, value) :: fields) ((key, value') :: fields')

end

section

variable {v : JsonValue} {items : List JsonValue} {fields : List (Text × JsonValue)} {s : Text}

/-- What is redacted of a field. -/
def redactField (field : Text × JsonValue) : Text × JsonValue :=
  (field.1, redactLogFields field.2 (some field.1))

theorem redactLogFields_none (v : JsonValue) : redactLogFields v none = redactValue v := rfl

theorem isSensitiveKey_nil : isSensitiveKey [] = false := by decide

theorem redactLogFields_some (v : JsonValue) (key : Text) : redactLogFields v (some key)
    = if isSensitiveKey key then .string redacted else redactValue v := by
  cases key with
  | nil => rw [isSensitiveKey_nil]; rfl
  | cons c key =>
      unfold redactLogFields
      simp

theorem redactItems_eq (items : List JsonValue) : redactItems items = items.map redactValue := by
  induction items with
  | nil => rfl
  | cons item items ih => rw [redactItems, ih, List.map_cons]

/-- An entry is redacted with its key. -/
theorem redactFields_eq (fields : List (Text × JsonValue)) :
    redactFields fields = fields.map redactField := by
  induction fields with
  | nil => rfl
  | cons field fields ih =>
      obtain ⟨key, value⟩ := field
      rw [redactFields, ih, List.map_cons, redactField, redactLogFields_some]

theorem redactValue_array (items : List JsonValue) :
    redactValue (.array items) = .array (items.map redactValue) := by
  rw [redactValue, redactItems_eq]

theorem redactValue_object (fields : List (Text × JsonValue)) :
    redactValue (.object fields) = .object (fields.map redactField) := by
  rw [redactValue, redactFields_eq]

/-! ### Depth by depth -/

theorem clean_string : Clean (.string s) ↔ ¬ HasSecret s := by
  constructor
  · exact fun h => h _ (.self _)
  · intro h x hx
    cases hx
    exact h

theorem clean_array : Clean (.array items) ↔ ∀ item ∈ items, Clean item := by
  constructor
  · exact fun h item hitem x hx => h x (.item hitem hx)
  · intro h x hx
    cases hx with
    | self => trivial
    | item hitem hx => exact h _ hitem x hx

theorem clean_object : Clean (.object fields) ↔
    CleanHere (.object fields) ∧ ∀ field ∈ fields, Clean field.2 := by
  constructor
  · exact fun h => ⟨h _ (.self _), fun field hfield x hx => h x (.field hfield hx)⟩
  · rintro ⟨hhere, h⟩ x hx
    cases hx with
    | self => exact hhere
    | field hfield hx => exact h _ hfield x hx

theorem safe_string : Safe (.string s) ↔ ¬ Exposed s := by
  constructor
  · exact fun h => h _ (.self _)
  · intro h x hx
    cases hx
    exact h

theorem safe_array : Safe (.array items) ↔ ∀ item ∈ items, Safe item := by
  constructor
  · exact fun h item hitem x hx => h x (.item hitem hx)
  · intro h x hx
    cases hx with
    | self => trivial
    | item hitem hx => exact h _ hitem x hx

theorem safe_object : Safe (.object fields) ↔ (∀ field ∈ fields, ¬ HasSecret field.1) ∧
    ∀ field ∈ fields, isSensitiveKey field.1 = false → Safe field.2 := by
  constructor
  · exact fun h => ⟨h _ (.self _), fun field hfield hkey x hx => h x (.field hfield hkey hx)⟩
  · rintro ⟨hhere, h⟩ x hx
    cases hx with
    | self => exact hhere
    | field hfield hkey hx => exact h _ hfield hkey x hx

theorem clean_redacted : Clean (.string redacted) := by
  rw [clean_string, ← List.append_nil redacted, hasSecret_redacted]
  exact hasSecret_nil

theorem redactField_snd (field : Text × JsonValue) : (redactField field).2
    = if isSensitiveKey field.1 then .string redacted else redactValue field.2 :=
  redactLogFields_some field.2 field.1

/-- **What is redacted is clean** exactly if it was safe. -/
theorem clean_redactValue (v : JsonValue) : Clean (redactValue v) ↔ Safe v := by
  induction v using JsonValue.ind with
  | null => exact iff_of_true (fun x hx => by cases hx; trivial) fun x hx => by cases hx; trivial
  | bool b => exact iff_of_true (fun x hx => by cases hx; trivial) fun x hx => by cases hx; trivial
  | number n => exact iff_of_true (fun x hx => by cases hx; trivial) fun x hx => by cases hx; trivial
  | infinite negative =>
      exact iff_of_true (fun x hx => by cases hx; trivial) fun x hx => by cases hx; trivial
  | string s => exact clean_string.trans ((not_congr (hasSecret_redactText s)).trans safe_string.symm)
  | array items ih =>
      rw [redactValue_array, clean_array, safe_array, List.forall_mem_map]
      exact forall₂_congr ih
  | object fields ih =>
      rw [redactValue_object, clean_object, safe_object, CleanHere, List.forall_mem_map,
        List.forall_mem_map]
      refine and_congr (forall₂_congr fun field hfield => ?_) (forall₂_congr fun field hfield => ?_)
      · refine and_iff_left fun hkey => ?_
        have hkey' : isSensitiveKey field.1 = true := hkey
        rw [redactField_snd, if_pos hkey']
      · rw [redactField_snd]
        cases hkey : isSensitiveKey field.1 with
        | true => exact iff_of_true clean_redacted fun h => by cases h
        | false => exact (ih field hfield).trans ⟨fun h _ => h, fun h => h rfl⟩

/-- What is clean is left as it is. -/
theorem redactValue_eq_self (v : JsonValue) (h : Clean v) : redactValue v = v := by
  induction v using JsonValue.ind with
  | null => rfl
  | bool b => rfl
  | number n => rfl
  | infinite negative => rfl
  | string s =>
      show JsonValue.string (redactText s) = _
      rw [redactText_eq_self_iff.mpr (clean_string.mp h)]
  | array items ih =>
      have hsame : ∀ item ∈ items, redactValue item = item :=
        fun item hitem => ih item hitem (clean_array.mp h item hitem)
      rw [redactValue_array, List.map_congr_left hsame, List.map_id']
  | object fields ih =>
      obtain ⟨hhere, hfields⟩ := clean_object.mp h
      have hsame : ∀ field ∈ fields, redactField field = field := by
        intro field hfield
        refine Prod.ext rfl ?_
        rw [redactField_snd]
        split_ifs with hkey
        · exact ((hhere field hfield).2 hkey).symm
        · exact ih field hfield (hfields field hfield)
      rw [redactValue_object, List.map_congr_left hsame, List.map_id']

theorem keepsText_redactText (t : Text) : KeepsText t (redactText t) := by
  show KeepsText t (shown redacted (scan secretValue t))
  induction t using Replace.scan_induction proper_secretValue with
  | nil => exact .nil
  | kept c t hfind ih =>
      rw [Replace.scan_kept hfind]
      exact .kept c ih
  | hit m t hm hfind ih =>
      rw [Replace.scan_hit hm hfind]
      exact .secret (isSecret_of_hit hfind) ih

/-- **Nothing else is changed.** -/
theorem keeps_redactValue (v : JsonValue) : Keeps v (redactValue v) := by
  induction v using JsonValue.ind with
  | null => exact .null
  | bool b => exact .bool b
  | number n => exact .number n
  | infinite negative => exact .infinite negative
  | string s => exact .string (keepsText_redactText s)
  | array items ih =>
      rw [redactValue_array]
      refine .array ?_
      induction items with
      | nil => exact .nil
      | cons item items ihitems =>
          exact .cons (ih item List.mem_cons_self)
            (ihitems fun item' h => ih item' (List.mem_cons_of_mem _ h))
  | object fields ih =>
      rw [redactValue_object]
      refine .object ?_
      induction fields with
      | nil => exact .nil
      | cons field fields ihfields =>
          have hrest := ihfields fun field' h => ih field' (List.mem_cons_of_mem _ h)
          rw [List.map_cons]
          cases hkey : isSensitiveKey field.1 with
          | true => exact .sensitive _ _ hkey hrest
          | false =>
              refine .cons ?_ hrest
              rw [redactLogFields_some, hkey]
              exact ih field List.mem_cons_self

/-- **Redaction is complete and idempotent, and changes nothing else**, exactly for values that are safe:
no seed is left in front of a match, and no key has a secret. -/
theorem redaction_complete_iff (value : JsonValue) :
    (Clean (redactLogFields value none) ∧
      redactLogFields (redactLogFields value none) none = redactLogFields value none ∧
      Keeps value (redactLogFields value none)) ↔ Safe value := by
  rw [redactLogFields_none, redactLogFields_none]
  constructor
  · exact fun h => (clean_redactValue value).mp h.1
  · intro hsafe
    have hclean := (clean_redactValue value).mpr hsafe
    exact ⟨hclean, redactValue_eq_self _ hclean, keeps_redactValue value⟩

end

/-! ## Two secrets without a space -/

/-- A seed, and a key right behind it. -/
def adjacentSecrets : Text :=
  ofString "S" ++ List.replicate 55 (.scalar 'A') ++ ofString "sk_live_x"

def adjacentFields : JsonValue := .object [(ofString "message", .string adjacentSecrets)]

/-- **The key is replaced, and the seed is logged**; a second redaction would replace it. -/
theorem adjacent_seed_logged :
    redactLogFields adjacentFields none = .object [(ofString "message",
      .string (ofString "S" ++ List.replicate 55 (.scalar 'A') ++ redacted))] ∧
    redactLogFields (redactLogFields adjacentFields none) none
      = .object [(ofString "message", .string (redacted ++ redacted))] ∧
    ¬ (Clean (redactLogFields adjacentFields none) ∧
      redactLogFields (redactLogFields adjacentFields none) none = redactLogFields adjacentFields none ∧
      Keeps adjacentFields (redactLogFields adjacentFields none)) := by
  have hfirst : redactText adjacentSecrets
      = ofString "S" ++ List.replicate 55 (.scalar 'A') ++ redacted := by decide
  have hsecond : redactText (ofString "S" ++ List.replicate 55 (.scalar 'A') ++ redacted)
      = redacted ++ redacted := by decide
  have hkey : isSensitiveKey (ofString "message") = false := by decide
  have honce : redactLogFields adjacentFields none = .object [(ofString "message",
      .string (ofString "S" ++ List.replicate 55 (.scalar 'A') ++ redacted))] := by
    rw [redactLogFields_none, adjacentFields, redactValue_object, List.map_singleton, redactField,
      redactLogFields_some, hkey, ← hfirst]
    rfl
  have htwice : redactLogFields (redactLogFields adjacentFields none) none
      = .object [(ofString "message", .string (redacted ++ redacted))] := by
    rw [honce, redactLogFields_none, redactValue_object, List.map_singleton, redactField,
      redactLogFields_some, hkey, ← hsecond]
    rfl
  refine ⟨honce, htwice, fun h => ?_⟩
  have hsame := h.2.1
  rw [htwice, honce] at hsame
  simp only [JsonValue.object.injEq, List.cons.injEq, Prod.mk.injEq, JsonValue.string.injEq] at hsame
  exact absurd hsame.1.2 (by decide)

end Paymap.SecureLogger
