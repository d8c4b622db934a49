import IssueSteward.Proofs.Decoding

/-!
# Every event can be written

Every event of either kind is presented by some text (`exists_presentation`), so that there is no
event that loading could never give. A value is written with every character escaped that can be, a
record as an array of its fields (`Shape.exists_presents`, by recursion on the shape). What `null`
stands for is unambiguous only where no value that may be missing stands directly inside another,
which a shape tells (`Shape.definite`).
-/

namespace IssueSteward.Payload

/-! ## Strings and numbers -/

/-- A digit of base sixteen is read as its value. -/
theorem hexDigit_digitChar : ∀ i < 16, Text.hexDigit? (Nat.digitChar i) = some i := by decide

/-- A decimal digit is one, has its value, and is zero only for zero. -/
theorem digitChar_decimal : ∀ i < 10, (Nat.digitChar i).isDigit = true ∧
    Decimal.digitValue (Nat.digitChar i) = i ∧ (Nat.digitChar i = '0' → i = 0) := by decide

/-- Every number of sixteen bits can be written in four digits. -/
theorem exists_unitText {n : Nat} (h : n < 0x10000) : ∃ u, UnitText n u :=
  ⟨_, .mk (hexDigit_digitChar (n / 0x1000) (by omega))
    (hexDigit_digitChar (n / 0x100 % 16) (by omega)) (hexDigit_digitChar (n / 16 % 16) (by omega))
    (hexDigit_digitChar (n % 16) (by omega)) (by omega)⟩

/-- A character of more than sixteen bits may stand for itself. -/
theorem isPlain_of_large {c : Char} (h : 0x10000 ≤ c.toNat) : isPlain c = true := by
  have hne : ∀ d : Char, d.toNat < 0x10000 → c ≠ d := by
    rintro d hd rfl
    omega
  have hcontrol : ¬c < ' ' := by
    rw [Char.lt_def, UInt32.lt_iff_toNat_lt]
    have hval : c.val.toNat = c.toNat := rfl
    have hspace : (' ' : Char).val.toNat = 32 := rfl
    omega
  simp [isPlain, hcontrol, hne '"' (by decide), hne '\\' (by decide)]

/-- Every string can be spelled. -/
theorem exists_spelling (v : List Char) : ∃ t, Spelling v t := by
  induction v with
  | nil => exact ⟨[], .nil⟩
  | cons c v ih =>
    obtain ⟨t, ht⟩ := ih
    rcases Nat.lt_or_ge c.toNat 0x10000 with hsmall | hlarge
    · obtain ⟨u, hu⟩ := exists_unitText hsmall
      exact ⟨_, .unit hu ht⟩
    · exact ⟨_, .plain (isPlain_of_large hlarge) ht⟩

/-- Every number can be written in digits, of which the first is zero only for zero. -/
theorem exists_digits (n : Nat) :
    ∃ ds, WholeText ds ∧ digitsValue ds = n ∧ (ds.head? = some '0' → n = 0) := by
  induction n using Nat.strongRecOn with
  | _ n ih =>
    rcases Nat.lt_or_ge n 10 with hsmall | hlarge
    · obtain ⟨hdigit, hvalue, hzero⟩ := digitChar_decimal n hsmall
      refine ⟨[Nat.digitChar n], ⟨⟨by simp, by simpa using hdigit⟩, ?_⟩, ?_, ?_⟩
      · intro h
        rw [Option.some.inj h]
      · simpa [digitsValue] using hvalue
      · exact fun h => hzero (Option.some.inj h)
    · -- the last digit follows those of the tenth
      obtain ⟨ds, ⟨⟨hne, hall⟩, -⟩, hvalue, hzero⟩ := ih (n / 10) (by omega)
      obtain ⟨hdigit, hlast, -⟩ := digitChar_decimal (n % 10) (by omega)
      have hhead : (ds ++ [Nat.digitChar (n % 10)]).head? = some '0' → n = 0 := by
        intro h
        rw [List.head?_append_of_ne_nil _ hne] at h
        have := hzero h
        omega
      refine ⟨ds ++ [Nat.digitChar (n % 10)], ⟨⟨by simp, ?_⟩, fun h => ?_⟩, ?_, hhead⟩
      · intro c hc
        rcases List.mem_append.1 hc with hc | hc
        · exact hall c hc
        · exact List.mem_singleton.1 hc ▸ hdigit
      · have := hhead h
        omega
      · have hfold : digitsValue (ds ++ [Nat.digitChar (n % 10)]) =
            10 * digitsValue ds + Decimal.digitValue (Nat.digitChar (n % 10)) := by
          simp [digitsValue]
        rw [hfold, hvalue, hlast]
        omega

/-! ## Shapes -/

/-- Whether a value of a shape may be missing. -/
def Shape.isOptional : Shape → Bool
  | .optional _ => true
  | _ => false

mutual
/-- Whether it is clear of every value of a shape that may be missing whether it is. -/
def Shape.definite : Shape → Bool
  | .text | .number | .state | .anything => true
  | .optional s => !s.isOptional && s.definite
  | .list s => s.definite
  | .record _ fs => fs.definite
/-- Whether it is clear of every value of the fields that may be missing whether it is. -/
def Fields.definite : Fields → Bool
  | .nil => true
  | .cons _ _ s rest => s.definite && rest.definite
end

mutual
/-- Every value of a shape is presented by some text, and by another one than `null` unless it may be
missing. -/
theorem Shape.exists_presents : (s : Shape) → s.definite = true → (depth : Nat) → (v : s.Value) →
    ∃ t, s.Presents depth v t ∧ (s.isOptional = false → t ≠ nullText)
  | .text, _, _, v => by
    obtain ⟨t, ht⟩ := exists_spelling (String.toList v)
    exact ⟨quoted t, ⟨t, ht, rfl⟩, fun _ => by simp [quoted, nullText]⟩
  | .number, _, _, n => by
    obtain ⟨ds, hds, hvalue, -⟩ := exists_digits (UInt64.toNat n)
    refine ⟨ds, ⟨hds, hvalue⟩, ?_⟩
    rintro - rfl
    exact absurd (hds.1.2 'n' (by decide)) (by decide)
  | .state, _, _, v => by
    obtain ⟨t, ht⟩ := exists_spelling (IssueState.name v).toList
    exact ⟨quoted t, .name ht, fun _ => by simp [quoted, nullText]⟩
  | .anything, _, _, _ => ⟨_, .yes, fun _ => by decide⟩
  | .optional _, _, _, none => ⟨_, .none, nofun⟩
  | .optional s, h, depth, some v => by
    rw [Shape.definite, Bool.and_eq_true, Bool.not_eq_true'] at h
    obtain ⟨t, ht, hne⟩ := s.exists_presents h.2 depth v
    exact ⟨t, .some ht (hne h.1), nofun⟩
  | .list s, h, depth, vs => by
    have hall : ∀ vs : List s.Value, ∃ ts, List.Forall₂ (s.Presents (depth + 1)) vs ts := by
      intro vs
      induction vs with
      | nil => exact ⟨[], .nil⟩
      | cons v vs ih =>
        obtain ⟨ts, hts⟩ := ih
        obtain ⟨t, ht, -⟩ := s.exists_presents h (depth + 1) v
        exact ⟨t :: ts, .cons ht hts⟩
    obtain ⟨ts, hts⟩ := hall vs
    exact ⟨_, .array (listed_compact .square true ts) hts, fun _ => by simp [nullText]⟩
  | .record _ fs, h, depth, vs => by
    obtain ⟨ts, hts⟩ := fs.exists_inOrder h (depth + 1) vs
    exact ⟨_, .array (listed_compact .square true ts) hts, fun _ => by simp [nullText]⟩
/-- The values of fields are presented in their order by some texts. -/
theorem Fields.exists_inOrder : (fs : Fields) → fs.definite = true → (depth : Nat) →
    (vs : fs.Values) → ∃ ts, fs.InOrder depth vs ts
  | .nil, _, _, () => ⟨[], rfl⟩
  | .cons _ _ s rest, h, depth, (v, vs) => by
    rw [Fields.definite, Bool.and_eq_true] at h
    obtain ⟨t, ht, -⟩ := s.exists_presents h.1 depth v
    obtain ⟨ts, hts⟩ := rest.exists_inOrder h.2 depth vs
    exact ⟨t :: ts, t, ts, rfl, ht, hts⟩
end

/-! ## Events -/

/-- What a format makes of the values of its fields is presented by some text. -/
theorem Format.exists_presents {α : Type} (f : Format α) (hf : f.fields.definite = true)
    (values : f.fields.Values) : ∃ text, f.Presents (f.build values) text := by
  obtain ⟨t, ht, -⟩ := (Shape.record f.name f.fields).exists_presents hf 0 values
  exact ⟨String.ofList t, values, [], t, [], rfl, by simp, by decide, by decide, ht⟩

/-- The values of the fields of an account. -/
def ofUser (user : User) : userFields.Values := (user.login, user.kind, ())

/-- The values of the fields of a comment. -/
def ofComment (comment : Comment) : commentFields.Values :=
  (comment.body, comment.user.map ofUser, ())

/-- The values of the fields of a pull request. -/
def ofPullRequest (pr : PullRequest) : pullRequestFields.Values :=
  (pr.number, pr.body, pr.state, pr.user.map ofUser, ())

/-- The values of the fields of an issue. -/
def ofIssue (issue : Issue) : issueFields.Values :=
  (issue.number, issue.state, issue.user.map ofUser, issue.assignees.map ofUser,
    if issue.isPullRequest then some () else none, ())

/-- What is undone of a value is undone of one that may be missing. -/
theorem map_undone {α β : Type} {f : α → β} {g : β → α} (h : ∀ a, g (f a) = a) (o : Option α) :
    (o.map f).map g = o := by
  cases o with
  | none => rfl
  | some a => exact congrArg some (h a)

/-- An account is made of the values of its fields. -/
theorem toUser_ofUser (user : User) : toUser (ofUser user) = user := rfl

/-- A comment is made of the values of its fields. -/
theorem toComment_ofComment (comment : Comment) : toComment (ofComment comment) = comment :=
  congrArg (Comment.mk comment.body) (map_undone toUser_ofUser comment.user)

/-- A pull request is made of the values of its fields. -/
theorem toPullRequest_ofPullRequest (pr : PullRequest) : toPullRequest (ofPullRequest pr) = pr :=
  congrArg (PullRequest.mk pr.number pr.body pr.state) (map_undone toUser_ofUser pr.user)

/-- An issue is made of the values of its fields. -/
theorem toIssue_ofIssue (issue : Issue) : toIssue (ofIssue issue) = issue := by
  obtain ⟨number, state, user, assignees, isPullRequest⟩ := issue
  have hassignees : (assignees.map ofUser).map toUser = assignees := by
    rw [List.map_map]
    exact List.map_id assignees
  have hpull : (if isPullRequest then some () else none).isSome = isPullRequest := by
    cases isPullRequest <;> rfl
  calc toIssue (ofIssue ⟨number, state, user, assignees, isPullRequest⟩)
      = ⟨number, state, (user.map ofUser).map toUser, (assignees.map ofUser).map toUser,
          (if isPullRequest then some () else none).isSome⟩ := rfl
    _ = ⟨number, state, user, assignees, isPullRequest⟩ := by
      rw [map_undone toUser_ofUser, hassignees, hpull]

/-- Every event is presented by some text. -/
theorem exists_presentation :
    (∀ event : PullRequestEvent, ∃ text, pullRequestEvent.Presents event text) ∧
    ∀ event : IssueCommentEvent, ∃ text, issueCommentEvent.Presents event text := by
  refine ⟨fun event => ?_, fun event => ?_⟩
  · have hevent :
        pullRequestEvent.build (event.action, event.pullRequest.map ofPullRequest, ()) = event :=
      congrArg (PullRequestEvent.mk event.action)
        (map_undone toPullRequest_ofPullRequest event.pullRequest)
    exact hevent ▸ pullRequestEvent.exists_presents (by decide) _
  · have hevent : issueCommentEvent.build
        (event.action, event.issue.map ofIssue, event.comment.map ofComment, ()) = event :=
      congrArg₂ (IssueCommentEvent.mk event.action) (map_undone toIssue_ofIssue event.issue)
        (map_undone toComment_ofComment event.comment)
    exact hevent ▸ issueCommentEvent.exists_presents (by decide) _

end IssueSteward.Payload
