import IssueSteward.Payload.Scan
import IssueSteward.Proofs.Spelling
import Mathlib.Data.List.TakeWhile

/-!
# What a reader makes of a text as it comes in

A reader takes a part of a text from its beginning and leaves the rest. What it makes of the part is
settled as soon as the part is there: it takes no more of another text that begins with the part,
unless what follows goes on with it (`Follows`), and on every shorter piece of the part it says that
the text is truncated, unless the piece ends inside a number (`Part`). Of a reader that reads all
texts in this way it is said that it streams them (`Streams`).

Readers are put together of others one after the other, so the property is shown to be kept by
sequences (`Streams.bind`) and by looking at the first character after white space
(`Streams.first`). Where the text is cut matters only inside a number that is no part of a string,
which is why the characters read so far are followed through the quotes of strings (`Region`).
-/

namespace IssueSteward.Payload

/-! ## Places of a text -/

/-- Where a place of a payload lies, as far as quotes tell it. -/
inductive Region where
  /-- In no string. -/
  | outside
  /-- In a string. -/
  | string
  /-- In a string, behind a backslash. -/
  | escape
deriving DecidableEq, Repr

/-- The region behind one more character. -/
def Region.next : Region → Char → Region
  | .outside, c => if c = '"' then .string else .outside
  | .string, c => if c = '"' then .outside else if c = '\\' then .escape else .string
  | .escape, _ => .string

/-- The region behind a text that begins in a region. -/
def Region.after (g : Region) (s : List Char) : Region := s.foldl Region.next g

/-- The region behind a text. -/
def regionAfter (s : List Char) : Region := Region.outside.after s

/-- What a number may look like, with its sign. -/
def NumberLiteral (n : List Char) : Prop := ∃ g t, FigureText g t ∧ (n = t ∨ n = '-' :: t)

/-- A text that is cut into two pieces is cut strictly inside a number: some of the number stands at
the end of the first piece, in no string, and the rest of it at the beginning of the second. -/
def InsideNumber (p q : List Char) : Prop :=
  ∃ a n m b, p = a ++ n ∧ q = m ++ b ∧ n ≠ [] ∧ m ≠ [] ∧ NumberLiteral (n ++ m) ∧
    regionAfter a = .outside

/-- The region behind two texts is that behind the second when it begins behind the first. -/
theorem Region.after_append (g : Region) (s t : List Char) :
    g.after (s ++ t) = (g.after s).after t := List.foldl_append

/-- What follows a text that ends outside strings is as at the beginning. -/
theorem regionAfter_append {s : List Char} (h : regionAfter s = .outside) (t : List Char) :
    regionAfter (s ++ t) = regionAfter t := by
  unfold regionAfter at *
  rw [Region.after_append, h]

/-- A text without quotes does not lead into a string. -/
theorem regionAfter_of_no_quote {s : List Char} (h : ∀ c ∈ s, c ≠ '"') :
    regionAfter s = .outside := by
  induction s with
  | nil => rfl
  | cons c s ih =>
    have hc : regionAfter [c] = .outside := if_neg (h c List.mem_cons_self)
    have hs := ih fun d hd => h d (List.mem_cons_of_mem _ hd)
    exact (regionAfter_append hc s).trans hs

/-- White space has no quotes. -/
theorem Space.outside {w : List Char} (hw : Space w) : regionAfter w = .outside := by
  refine regionAfter_of_no_quote ?_
  rintro c hc rfl
  exact absurd (hw '"' hc) (by decide)

/-- A cut inside a number remains one behind a text that ends outside strings. -/
theorem InsideNumber.behind {a p q : List Char} (ha : regionAfter a = .outside)
    (h : InsideNumber p q) : InsideNumber (a ++ p) q := by
  obtain ⟨a', n, m, b, rfl, rfl, hn, hm, hliteral, ha'⟩ := h
  refine ⟨a ++ a', n, m, b, (List.append_assoc ..).symm, rfl, hn, hm, hliteral, ?_⟩
  rw [regionAfter_append ha, ha']

/-! ## What follows a part -/

/-- A text may stand in the place of another one behind a number without going on with it: it is
empty, it begins like the other one, or it does not begin like the rest of a number. -/
def Follows (r r' : List Char) : Prop := ∀ c, r'.head? = some c → r.head? = some c ∨ Stops r'

/-- Nothing goes on with a number. -/
theorem follows_nil (r : List Char) : Follows r [] := by simp [Follows]

/-- The beginning of a text may stand in its place. -/
theorem follows_prefix (p q : List Char) : Follows (p ++ q) p := by
  cases p with
  | nil => exact follows_nil _
  | cons c p => exact fun _ h => .inl h

/-- What does not go on with a number may stand in any place. -/
theorem Stops.follows {r r' : List Char} (h : Stops r') : Follows r r' := fun _ _ => .inr h

/-- What may stand in the place of a text may also stand there behind the same text. -/
theorem Follows.append_left {r r' : List Char} (h : Follows r r') (t : List Char) :
    Follows (t ++ r) (t ++ r') := by
  cases t with
  | nil => exact h
  | cons c t => exact fun _ hc => .inl hc

/-! ## Parts -/

/-- A text that is put together of two and cut somewhere is cut either before the end of the first,
or in the second. -/
theorem append_cut {t t' p m : List Char} (h : t ++ t' = p ++ m) :
    (∃ m', m' ≠ [] ∧ t = p ++ m' ∧ m = m' ++ t') ∨ ∃ p', p = t ++ p' ∧ t' = p' ++ m := by
  rcases List.append_eq_append_iff.1 h with ⟨p', hp, ht'⟩ | ⟨m', ht, hm⟩
  · exact .inr ⟨p', hp, ht'⟩
  · cases m' with
    | nil => exact .inr ⟨[], by rw [ht, List.append_nil, List.append_nil], by simpa using hm.symm⟩
    | cons c m' => exact .inl ⟨c :: m', List.cons_ne_nil _ _, ht, hm⟩

/-- A function that reads a value from the beginning of a text and leaves the rest. -/
abbrev Reader (α : Type) : Type := List Char → Except Fault (α × List Char)

/-- A reader makes the value `v` of the part `t` of a text, behind `lead` and before `r`. -/
structure Part {α : Type} (lead : List Char) (f : Reader α) (v : α) (t r : List Char) : Prop where
  /-- No string is open behind it. -/
  outside : regionAfter (lead ++ t) = .outside
  /-- The value does not depend on what follows. -/
  settled : ∀ {r' : List Char}, Follows r r' → f (t ++ r') = .ok (v, r')
  /-- Less of it is too little. -/
  cut : ∀ {p m : List Char}, t = p ++ m → m ≠ [] → ¬ InsideNumber (lead ++ p) (m ++ r) →
    f p = .error .truncated

/-- If a reader reads a text behind `lead`, it reads a part of it. -/
def Streams {α : Type} (lead : List Char) (f : Reader α) (s : List Char) : Prop :=
  ∀ ⦃v : α⦄ ⦃r : List Char⦄, f s = .ok (v, r) → ∃ t, s = t ++ r ∧ Part lead f v t r

/-- A function that only passes over the beginning of a text, as a reader. -/
def beyond (f : List Char → Except Fault (List Char)) : Reader Unit :=
  fun s => (fun r => ((), r)) <$> f s

/-- What is passed over is read. -/
theorem beyond_eq_ok {f : List Char → Except Fault (List Char)} {s r : List Char} {v : Unit} :
    beyond f s = .ok (v, r) ↔ f s = .ok r := by
  unfold beyond
  rcases f s with fault | r' <;> simp [Functor.map, Except.map]

namespace Streams

variable {α β : Type} {lead s : List Char}

/-- A reader that refuses all texts reads none in another way. -/
theorem error (fault : List Char → Fault) :
    Streams lead (fun s => .error (fault s) : Reader α) s := nofun

/-- Nothing is read where no string is open. -/
theorem pure (hlead : regionAfter lead = .outside) (v : α) :
    Streams lead (fun r => .ok (v, r)) s := by
  intro v' r h
  cases h
  refine ⟨[], rfl, ?_, fun _ => rfl, ?_⟩
  · rw [List.append_nil, hlead]
  · intro p m hsplit hm
    exact absurd (List.append_eq_nil_iff.1 hsplit.symm).2 hm

/-- A reader may depend on a value that is looked up, or refused, without reading on. -/
theorem check {x : Except Fault α} {f : α → Reader β} (hf : ∀ v, Streams lead (f v) s) :
    Streams lead (fun s => x >>= fun v => f v s) s := by
  cases x with
  | error fault => exact error fun _ => fault
  | ok v => exact hf v

/-- A value may be looked up, or refused, without reading on. -/
theorem lift (hlead : regionAfter lead = .outside) (x : Except Fault α) :
    Streams lead (fun r => x >>= fun v => Pure.pure (v, r)) s := check fun v => pure hlead v

/-- What two readers read one after the other is a part. -/
theorem bind {f : Reader α} {g : α → Reader β} (hf : Streams lead f s)
    (hg : ∀ v r, f s = .ok (v, r) → Streams [] (g v) r) :
    Streams lead (fun s => f s >>= fun x => g x.1 x.2) s := by
  intro v₂ r₂ h
  obtain ⟨⟨v₁, r₁⟩, h₁, h₂⟩ := bind_eq_ok.1 h
  obtain ⟨t₁, rfl, ht₁⟩ := hf h₁
  obtain ⟨t₂, rfl, ht₂⟩ := hg v₁ r₁ h₁ h₂
  refine ⟨t₁ ++ t₂, (List.append_assoc ..).symm, ?_, ?_, ?_⟩
  · rw [← List.append_assoc, regionAfter_append ht₁.outside]
    exact ht₂.outside
  · intro r' hr'
    rw [List.append_assoc, ht₁.settled (hr'.append_left t₂)]
    exact ht₂.settled hr'
  · intro p m hsplit hm hnumber
    rcases append_cut hsplit with ⟨m₁, hm₁, rfl, rfl⟩ | ⟨p₂, rfl, rfl⟩
    · -- the first reader gets too little
      have hf₁ := ht₁.cut rfl hm₁ (by rwa [List.append_assoc] at hnumber)
      rw [hf₁]
      rfl
    · -- the first reader gets all of its part, and the second one too little
      have hfollows : Follows (p₂ ++ m ++ r₂) p₂ := by
        rw [List.append_assoc]
        exact follows_prefix _ _
      have hf₁ := ht₁.settled hfollows
      rw [← List.append_assoc] at hnumber
      have hg₂ := ht₂.cut rfl hm fun hinside => hnumber (hinside.behind ht₁.outside)
      rw [hf₁]
      exact hg₂

/-- A reader may begin behind a text that ends outside strings. -/
theorem behind {f : Reader α} (hf : Streams [] f s) (hlead : regionAfter lead = .outside) :
    Streams lead f s := by
  intro v r h
  obtain ⟨t, rfl, ht⟩ := hf h
  refine ⟨t, rfl, ?_, ht.settled, fun hsplit hm hnumber => ?_⟩
  · rw [regionAfter_append hlead]
    exact ht.outside
  · exact ht.cut hsplit hm fun hinside => hnumber (hinside.behind hlead)

/-- A value may be changed after it is read. -/
theorem map {f : Reader α} (hf : Streams lead f s) (k : α → β) :
    Streams lead (fun s => (fun x => (k x.1, x.2)) <$> f s) s := by
  have hbind := hf.bind (g := fun v r => .ok (k v, r)) fun v r _ => pure rfl (k v)
  have hmap : (fun s => f s >>= fun x => Except.ok (k x.1, x.2)) =
      fun s => (fun x => (k x.1, x.2)) <$> f s := by
    funext s
    rcases f s with fault | x <;> rfl
  rwa [hmap] at hbind

/-- Either of two readers may be chosen. -/
theorem ite {p : Prop} [Decidable p] {f g : Reader α} (hf : p → Streams lead f s)
    (hg : ¬p → Streams lead g s) : Streams lead (fun s => if p then f s else g s) s := by
  by_cases hp : p
  · simp only [if_pos hp]
    exact hf hp
  · simp only [if_neg hp]
    exact hg hp

/-- A reader that begins with a character may be handed the character back. -/
theorem unread {f : Reader α} {c : Char} (hf : Streams [] f (c :: s))
    (hlt : ∀ {v r}, f (c :: s) = .ok (v, r) → r.length < (c :: s).length) :
    Streams [c] (fun s => f (c :: s)) s := by
  intro v r h
  have hshort := hlt h
  obtain ⟨t, hsplit, ht⟩ := hf h
  cases t with
  | nil =>
    rw [hsplit] at hshort
    exact absurd hshort (Nat.lt_irrefl _)
  | cons d t =>
    obtain ⟨rfl, rfl⟩ := List.cons.inj hsplit
    refine ⟨t, rfl, ht.outside, ht.settled, ?_⟩
    rintro p m rfl hm hnumber
    exact ht.cut rfl hm hnumber

/-! ### What is only passed over -/

/-- A reader may follow where the text was only passed over. -/
theorem goOn {f : List Char → Except Fault (List Char)} {g : Reader β}
    (hf : Streams lead (beyond f) s) (hg : ∀ r, f s = .ok r → Streams [] g r) :
    Streams lead (fun s => f s >>= g) s := by
  have hbind := hf.bind (g := fun _ => g) fun _ r h => hg r (beyond_eq_ok.1 h)
  have hbeyond : (fun s => beyond f s >>= fun x => g x.2) = fun s => f s >>= g := by
    funext s
    unfold beyond
    rcases f s with fault | r <;> rfl
  rwa [hbeyond] at hbind

/-- One text may be passed over after another. -/
theorem beyondBind {f g : List Char → Except Fault (List Char)} (hf : Streams lead (beyond f) s)
    (hg : ∀ r, f s = .ok r → Streams [] (beyond g) r) :
    Streams lead (beyond fun s => f s >>= g) s := by
  have hbind := hf.goOn hg
  have hbeyond : (fun s => f s >>= beyond g) = beyond fun s => f s >>= g := by
    funext s
    simp only [beyond]
    rcases f s with fault | r <;> rfl
  rwa [hbeyond] at hbind

/-- A text may be passed over after a value is read. -/
theorem bindBeyond {f : Reader α} {g : α → List Char → Except Fault (List Char)}
    (hf : Streams lead f s) (hg : ∀ v r, f s = .ok (v, r) → Streams [] (beyond (g v)) r) :
    Streams lead (beyond fun s => f s >>= fun x => g x.1 x.2) s := by
  have hbind := hf.bind hg
  have hbeyond : (fun s => f s >>= fun x => beyond (g x.1) x.2) =
      beyond fun s => f s >>= fun x => g x.1 x.2 := by
    funext s
    simp only [beyond]
    rcases f s with fault | x <;> rfl
  rwa [hbeyond] at hbind

/-- What is passed over may be given a value. -/
theorem tag {f : List Char → Except Fault (List Char)} (hf : Streams lead (beyond f) s) (v : α) :
    Streams lead (fun s => (fun r => (v, r)) <$> f s) s := by
  have hmap := hf.map fun _ => v
  have htag : (fun s => (fun x => (v, x.2)) <$> beyond f s) =
      fun s => (fun r => (v, r)) <$> f s := by
    funext s
    unfold beyond
    rcases f s with fault | r <;> rfl
  rwa [htag] at hmap

/-- The value of what is read may be forgotten. -/
theorem forget {f : Reader α} (hf : Streams lead f s) :
    Streams lead (beyond fun s => Prod.snd <$> f s) s := by
  have hmap := hf.map fun _ => ()
  have hforget : (fun s => (fun x => ((), x.2)) <$> f s) = beyond fun s => Prod.snd <$> f s := by
    funext s
    simp only [beyond]
    rcases f s with fault | x <;> rfl
  rwa [hforget] at hmap

/-- Either of two ways of passing over may be chosen. -/
theorem beyondIte {p : Prop} [Decidable p] {f g : List Char → Except Fault (List Char)}
    (hf : p → Streams lead (beyond f) s) (hg : ¬p → Streams lead (beyond g) s) :
    Streams lead (beyond fun s => if p then f s else g s) s := by
  by_cases hp : p
  · simp only [if_pos hp]
    exact hf hp
  · simp only [if_neg hp]
    exact hg hp

/-- Nothing is passed over where no string is open. -/
theorem stay (hlead : regionAfter lead = .outside) : Streams lead (beyond fun r => .ok r) s :=
  pure hlead ()

/-- A function that refuses all texts passes over none in another way. -/
theorem beyondError (fault : Fault) : Streams lead (beyond fun _ => .error fault) s :=
  error fun _ => fault

end Streams

/-! ## White space -/

/-- A reader that looks at the first character after white space and goes on from there. -/
def first {α : Type} (f : Char → Reader α) : Reader α := fun s =>
  match skipSpace s with
  | [] => .error .truncated
  | c :: r => f c r

/-- A text that does not end within white space is that space, a character and the rest. -/
theorem skipSpace_eq_cons {s r : List Char} {c : Char} (h : skipSpace s = c :: r) :
    isSpace c = false ∧ ∃ w, Space w ∧ s = w ++ c :: r := by
  have hhead : (skipSpace s).head? = some c := by rw [h]; rfl
  have hc := List.head?_dropWhile_not isSpace s
  have hsplit : s.takeWhile isSpace ++ skipSpace s = s := List.takeWhile_append_dropWhile
  unfold skipSpace at hhead
  rw [hhead] at hc
  refine ⟨by simpa using hc, s.takeWhile isSpace, fun d hd => List.mem_takeWhile_imp hd, ?_⟩
  rw [← h, hsplit]

/-- White space is too little. -/
theorem first_space {α : Type} {f : Char → Reader α} {w : List Char} (hw : Space w) :
    first f w = .error .truncated := by
  unfold first
  rw [skipSpace_space hw]

/-- White space before a character is passed over. -/
theorem first_append {α : Type} {f : Char → Reader α} {w s : List Char} {c : Char} (hw : Space w)
    (hc : isSpace c = false) : first f (w ++ c :: s) = f c s := by
  unfold first
  rw [skipSpace_append hw hc]

/-- What is read with the white space before it is a part. -/
theorem Streams.first {α : Type} {f : Char → Reader α} {s : List Char}
    (hf : ∀ c r, skipSpace s = c :: r → Streams [c] (f c) r) : Streams [] (first f) s := by
  intro v r h
  rcases hs : skipSpace s with _ | ⟨c, s'⟩
  · rw [first_space (skipSpace_eq_nil.1 hs)] at h
    cases h
  · obtain ⟨hc, w, hw, rfl⟩ := skipSpace_eq_cons hs
    rw [first_append hw hc] at h
    obtain ⟨t, rfl, ht⟩ := hf c s' hs h
    refine ⟨w ++ c :: t, by simp, ?_, ?_, ?_⟩
    · rw [List.nil_append, regionAfter_append hw.outside]
      exact ht.outside
    · intro r' hr'
      rw [List.append_assoc, List.cons_append, first_append hw hc]
      exact ht.settled hr'
    · intro p m hsplit hm hnumber
      rcases append_cut hsplit with ⟨w', -, rfl, -⟩ | ⟨p', rfl, hp'⟩
      · exact first_space fun d hd => hw d (List.mem_append_left _ hd)
      · cases p' with
        | nil => rw [List.append_nil, first_space hw]
        | cons d p' =>
          obtain ⟨rfl, rfl⟩ := List.cons.inj hp'
          rw [first_append hw hc]
          refine ht.cut rfl hm fun hinside => hnumber ?_
          simpa using hinside.behind hw.outside

/-- What is passed over with the white space before it is a part. -/
theorem Streams.beyondFirst {f : Char → List Char → Except Fault (List Char)} {s : List Char}
    (hf : ∀ c r, skipSpace s = c :: r → Streams [c] (beyond (f c)) r) :
    Streams [] (beyond fun s => match skipSpace s with
      | [] => .error .truncated
      | c :: r => f c r) s := by
  have hbeyond : (Payload.first fun c => beyond (f c)) = beyond fun s => match skipSpace s with
      | [] => .error .truncated
      | c :: r => f c r := by
    funext s
    simp only [beyond, Payload.first]
    rcases skipSpace s with _ | ⟨c, r⟩ <;> rfl
  rw [← hbeyond]
  exact .first hf

/-- What follows does not change the first character of a text after white space. -/
theorem skipSpace_append_of_cons {s r : List Char} {c : Char} (h : skipSpace s = c :: r)
    (r' : List Char) : skipSpace (s ++ r') = c :: (r ++ r') := by
  obtain ⟨hc, w, hw, rfl⟩ := skipSpace_eq_cons h
  rw [List.append_assoc, List.cons_append, skipSpace_append hw hc]

/-- A reader streams a text if it does what a reader that streams it does with all texts that begin
with the same character. -/
theorem Streams.of_first_char {α : Type} {f g : Reader α} {c : Char} {s s₀ : List Char}
    (hs : skipSpace s = c :: s₀) (hf : Streams [] f s)
    (hspace : ∀ w, Space w → f w = .error .truncated ∧ g w = .error .truncated)
    (hsame : ∀ s' r', skipSpace s' = c :: r' → g s' = f s') : Streams [] g s := by
  intro v r hread
  rw [hsame s s₀ hs] at hread
  obtain ⟨t, rfl, ht⟩ := hf hread
  have hprefix : ∀ p m, t = p ++ m → Space p ∨ ∃ r', skipSpace p = c :: r' := by
    rintro p m rfl
    rcases hp : skipSpace p with _ | ⟨d, r'⟩
    · exact .inl (skipSpace_eq_nil.1 hp)
    · rw [List.append_assoc, skipSpace_append_of_cons hp] at hs
      exact .inr ⟨r', by rw [(List.cons.inj hs).1]⟩
  refine ⟨t, rfl, ht.outside, fun {r'} hr' => ?_, fun {p m} hsplit hm hnumber => ?_⟩
  · rcases hprefix t [] (List.append_nil t).symm with hw | ⟨r₀, hr₀⟩
    · -- something is read, so there is more than white space
      have hall := ht.settled (follows_nil r)
      rw [List.append_nil, (hspace t hw).1] at hall
      cases hall
    · rw [hsame _ _ (skipSpace_append_of_cons hr₀ r')]
      exact ht.settled hr'
  · rcases hprefix p m hsplit with hw | ⟨r₀, hr₀⟩
    · exact (hspace p hw).2
    · rw [hsame p r₀ hr₀]
      exact ht.cut hsplit hm hnumber

end IssueSteward.Payload
