import IssueSteward.Payload.Event
import IssueSteward.Proofs.Presentation

/-!
# Loading an event undoes its presentation

A payload is a text that presents the record of its format, with white space around it
(`Format.Presents`). `load_presented` says that the event that a payload presents is loaded from it,
whatever the payload looks like: the decoder of a shape reads back what is presented
(`Shape.decode_append`), and a text is read back from its bytes.
-/

namespace IssueSteward.Payload

/-- A text presents what a format makes of the values of its fields. -/
def Format.Presents {α : Type} (f : Format α) (v : α) (text : String) : Prop :=
  ∃ values w t w', f.build values = v ∧ text.toList = w ++ (t ++ w') ∧ Space w ∧ Space w' ∧
    (Shape.record f.name f.fields).Presents 0 values t

/-- A text is read back from its bytes. -/
theorem fromUTF8_toUTF8 (s : String) : String.fromUTF8? s.toUTF8 = some s := by
  unfold String.fromUTF8?
  rw [String.toUTF8_eq_toByteArray, dif_pos s.isValidUTF8]
  rfl

/-- What a file with a text is loaded as is what the text says. -/
theorem load_toUTF8 {α : Type} (f : Format α) (text : String) :
    load f (some text.toUTF8) = (f.decode text).mapError .refused := by
  simp only [load, Option.bind_some, fromUTF8_toUTF8]
  rcases f.decode text with fault | event <;> rfl

/-- A whole text is decoded as the value at its beginning, if only white space follows. -/
theorem Shape.decode_eq_ok {s : Shape} {v : s.Value} {text : List Char} :
    s.decode text = .ok v ↔ ∃ r, (s.decoder 0).run text = .ok (v, r) ∧ Space r := by
  constructor
  · intro h
    obtain ⟨⟨v', r⟩, hread, hend⟩ := bind_eq_ok.1 h
    dsimp only at hend
    split at hend
    · cases hend
      exact ⟨r, hread, skipSpace_eq_nil.1 ‹_›⟩
    · cases hend
  · rintro ⟨r, hread, hr⟩
    simp only [decode, hread, bind, Except.bind, skipSpace_space hr]

/-- An event that is loaded is made of the values that the text holds. -/
theorem exists_of_load {α : Type} {f : Format α} {event : α} {text : String}
    (h : load f (some text.toUTF8) = .ok event) :
    ∃ values, (Shape.record f.name f.fields).decode text.toList = .ok values ∧
      f.build values = event := by
  rw [load_toUTF8] at h
  rcases hdecode : f.decode text with fault | event'
  · rw [hdecode] at h
    cases h
  · rw [hdecode] at h
    cases h
    exact map_eq_ok.1 hdecode

/-- What a text of a format presents is loaded from a file that holds the text. -/
theorem load_of_presents {α : Type} {f : Format α} {v : α} {text : String}
    (h : f.Presents v text) : load f (some text.toUTF8) = .ok v := by
  obtain ⟨values, w, t, w', rfl, htext, hw, hw', ht⟩ := h
  have hdecode : f.decode text = .ok (f.build values) := by
    simp only [Format.decode, htext, Shape.decode_append ht hw hw', Functor.map, Except.map]
  rw [load_toUTF8, hdecode]
  rfl

/-- Every event is loaded from every text that presents it: a record may be an object or an array of
its fields, the members of an object may come in any order and among others, what has a default may
be missing there, strings and names may be spelled in any way, and white space may stand
everywhere between. -/
theorem load_presented :
    (∀ (event : PullRequestEvent) (text : String), pullRequestEvent.Presents event text →
      load pullRequestEvent (some text.toUTF8) = .ok event) ∧
    ∀ (event : IssueCommentEvent) (text : String), issueCommentEvent.Presents event text →
      load issueCommentEvent (some text.toUTF8) = .ok event :=
  ⟨fun _ _ h => load_of_presents h, fun _ _ h => load_of_presents h⟩

/-! ## Two texts -/

/-- A text that presents an event of a pull request as arrays inside one another, with the state as
an object. -/
theorem presents_arrays :
    pullRequestEvent.Presents
      { action := none
        pullRequest := some
          { number := 18446744073709551615, body := none, state := .closed, user := none } }
      " [null,[18446744073709551615,null,\x7b\"closed\":null\x7d,null]]\n" := by
  have hnumber : NumberForm 18446744073709551615 "18446744073709551615".toList := by decide
  have hstate : StateForm .closed _ :=
    .object (x := ⟨"closed".toList, [], [], nullText⟩) (listed_compact _ _ _)
      ⟨by decide, by decide⟩ (spelling_self (by decide)) rfl
  have hpull : (Shape.optional (.record "PullRequest" pullRequestFields)).Presents 1
      (some ((18446744073709551615 : UInt64), none, .closed, none, ())) _ :=
    .some (.array (listed_compact _ _ _)
      ⟨_, _, rfl, hnumber, _, _, rfl, .none, _, _, rfl, hstate, _, _, rfl, .none, rfl⟩)
      (by simp [nullText])
  exact ⟨(none, some ((18446744073709551615 : UInt64), none, .closed, none, ()), ()), [' '], _,
    ['\n'], rfl, by decide +kernel, by decide, by decide,
    .array (listed_compact _ _ _) ⟨_, _, rfl, .none, _, _, rfl, hpull, rfl⟩⟩

/-- A member with its name in plain letters and a blank after the colon. -/
def plainMember (name : String) (value : List Char) : Named :=
  (name.toList, ⟨name.toList, [], [' '], value⟩)

/-- A member with its name in plain letters is well formed. -/
theorem plainMember_form {name : String} (h : name.toList.all isPlain = true) (value : List Char) :
    (plainMember name value).2.Spaced ∧
      Spelling (plainMember name value).1 (plainMember name value).2.name :=
  ⟨⟨by simp [plainMember, Space], by simp [plainMember, Space, isSpace]⟩, spelling_self h⟩

/-- A text that presents an event of a comment as an object with its members in another order, among
them one of an unknown name that holds half of a character. The issue has a pair of escapes in a
name and an object in the place of a pull request. -/
theorem presents_objects :
    issueCommentEvent.Presents
      { action := some "created"
        issue := some
          { number := 7, user := none, assignees := [{ login := "👋" }], isPullRequest := true }
        comment := none }
      ("\x7b\"zen\": \"\\ud800\",\"issue\": \x7b\"pull_request\": \x7b\"url\": \"u\"\x7d,"
        ++ "\"assignees\": [\x7b\"login\": \"\\uD83D\\uDC4B\"\x7d],\"number\": 7\x7d,"
        ++ "\"action\": \"created\"\x7d") := by
  have hzen : ValueText .skipped 0 _ :=
    .string (.unit (u := ['d', '8', '0', '0']) (.mk rfl rfl rfl rfl rfl) .nil)
  have hlogin : Spelling ['👋'] _ :=
    .pair (u := ['D', '8', '3', 'D']) (l := ['D', 'C', '4', 'B']) (by decide)
      (.mk rfl rfl rfl rfl rfl) (.mk rfl rfl rfl rfl rfl) .nil
  have hnumber : NumberForm 7 ['7'] := by decide
  have hassignees : (Shape.list (.record "User" userFields)).Presents 2
      [(("👋" : String), ("" : String), ())] _ :=
    .array (listed_compact _ _ _) (.cons (.object [plainMember "login" _] (listed_compact _ _ _)
      (List.forall_mem_singleton.2 (plainMember_form (by decide) _))
      ⟨.given ⟨_, hlogin, rfl⟩, .absent rfl, by simp [Fields.Given, plainMember]⟩) .nil)
  have hpull : (Shape.optional .anything).Presents 2 (some ()) _ :=
    .some (.object [(plainMember "url" (quoted ['u'])).2] (show 0 < nestingLimit - 2 by decide)
      (listed_compact _ _ _) (List.forall_mem_singleton.2 (plainMember_form (by decide) _).1)
      (List.forall_mem_singleton.2 ⟨_, (plainMember_form (by decide) _).2⟩)
      (List.forall_mem_singleton.2 (.string ⟨_, spelling_self (by decide)⟩))) (by simp [nullText])
  have hissue : (Shape.optional (.record "Issue" issueFields)).Presents 1
      (some ((7 : UInt64), .opened, none, [(("👋" : String), ("" : String), ())], some (), ())) _ :=
    .some (.object
      [plainMember "pull_request" _, plainMember "assignees" _, plainMember "number" ['7']]
      (listed_compact _ _ _)
      (by
        simp only [List.forall_mem_cons]
        exact ⟨plainMember_form (by decide) _, plainMember_form (by decide) _,
          plainMember_form (by decide) _, by simp⟩)
      ⟨.given hnumber, .absent rfl, .absent rfl, .given hassignees, .given hpull,
        by simp [Fields.Given, plainMember]⟩) (by simp [nullText])
  refine ⟨(some "created", some ((7 : UInt64), .opened, none, [("👋", "", ())], some (), ()), none,
    ()), [], _, [], rfl, ?_, by decide, by decide, .object
      [plainMember "zen" _, plainMember "issue" _, plainMember "action" (quoted "created".toList)]
      (listed_compact _ _ _) ?_
      ⟨.given (.some ⟨_, spelling_self (by decide), rfl⟩ (by decide)), .given hissue, .absent rfl,
        List.forall_mem_singleton.2 hzen⟩⟩
  · decide +kernel
  · simp only [List.forall_mem_cons]
    exact ⟨plainMember_form (by decide) _, plainMember_form (by decide) _,
      plainMember_form (by decide) _, by simp⟩

/-- Two events are loaded from the texts above. -/
theorem load_presented_twice :
    load pullRequestEvent
        (some " [null,[18446744073709551615,null,\x7b\"closed\":null\x7d,null]]\n".toUTF8) =
      .ok { action := none
            pullRequest := some
              { number := 18446744073709551615, body := none, state := .closed, user := none } } ∧
    load issueCommentEvent
        (some ("\x7b\"zen\": \"\\ud800\",\"issue\": \x7b\"pull_request\": \x7b\"url\": \"u\"\x7d,"
          ++ "\"assignees\": [\x7b\"login\": \"\\uD83D\\uDC4B\"\x7d],\"number\": 7\x7d,"
          ++ "\"action\": \"created\"\x7d").toUTF8) =
      .ok { action := some "created"
            issue := some
              { number := 7, user := none, assignees := [{ login := "👋" }], isPullRequest := true }
            comment := none } :=
  ⟨load_presented.1 _ _ presents_arrays, load_presented.2 _ _ presents_objects⟩

end IssueSteward.Payload
