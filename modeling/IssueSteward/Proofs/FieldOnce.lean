import IssueSteward.Proofs.Edits

/-!
# Each field at most once

In an object that stands for a record no field may be given twice, and members of other names do not
matter. `load_edited` says so of every payload from which an event is loaded and of every record in
it, however deep (`Edited`): where one more member has the name of a field that the object gave
before (`Repeats`), the payload is refused for that field, and where the object has further members
with names of no fields (`Padded`), the same event is loaded.
-/

namespace IssueSteward.Payload

/-- Among the members of an object there is one more, somewhere behind another one with the same
name, which is that of a field. -/
def Repeats (n : String) (fs : Fields) (xs xs' : List Named) : Prop :=
  n ∈ fs.names ∧ ∃ before x after, (∃ y ∈ before, y.1 = n.toList) ∧ x.1 = n.toList ∧
    xs = before ++ after ∧ xs' = before ++ x :: after

/-- Among the members of an object there are others with names of no fields. -/
inductive Padded (fs : Fields) : List Named → List Named → Prop
  /-- There are no members. -/
  | nil : Padded fs [] []
  /-- A member is as it was. -/
  | keep {x : Named} {xs xs' : List Named} (h : Padded fs xs xs') : Padded fs (x :: xs) (x :: xs')
  /-- There is one more member. -/
  | more {x : Named} {xs xs' : List Named} (hx : ∀ n ∈ fs.names, x.1 ≠ n.toList)
      (h : Padded fs xs xs') : Padded fs xs (x :: xs')

/-! ## What becomes of the members -/

section Members

variable {fs : Fields} {depth : Nat} {slots slots' : fs.Slots} {xs xs' : List Named} {n : String}

/-- One more member of a known name is at fault. -/
theorem Repeats.answer (h : Repeats n fs xs xs')
    (hxs : MembersAnswer (fs.columns (fs.decoders depth)) none slots xs slots') :
    MembersAnswer (fs.columns (fs.decoders depth)) (some (.unfit (.duplicateField n))) slots xs'
      slots' := by
  obtain ⟨hn, before, x, after, hbefore, hx, rfl, rfl⟩ := h
  -- the members behind the second one of the name do not matter
  obtain ⟨slots₁, hfirst, -⟩ := hxs.split
  have hgiven : fs.given slots₁ n = true := fs.given_of_membersAnswer hfirst hn (.inr hbefore)
  have hill : Gives (member (fs.columns (fs.decoders depth)) slots₁ x.1)
      (some (.unfit (.duplicateField n))) slots₁ x.2.tail := by
    intro r _
    rw [hx, fs.member_of_given hgiven]
    rfl
  exact hfirst.append (.ill hill)

/-- Members with names of no fields are skipped. -/
theorem Padded.answer (h : Padded fs xs xs') (hxs' : ∀ x ∈ xs', x.Formed)
    (hxs : MembersAnswer (fs.columns (fs.decoders depth)) none slots xs slots') :
    MembersAnswer (fs.columns (fs.decoders depth)) none slots xs' slots' := by
  induction h generalizing slots with
  | nil => exact hxs
  | keep h ih =>
    cases hxs with
    | well hx hrest => exact .well hx (ih (fun y hy => hxs' y (List.mem_cons_of_mem _ hy)) hrest)
  | @more x xs xs' hx h ih =>
    have hform := hxs' x List.mem_cons_self
    refine .well (fun r hr => ?_) (ih (fun y hy => hxs' y (List.mem_cons_of_mem _ hy)) hxs)
    simp only [fs.member_of_unknown hx, Member.tail, List.append_assoc, List.cons_append,
      colon_append hform.spaced.1, skipValue, passValue_append hform.value hform.spaced.2 hr, bind,
      Except.bind, Functor.map, Except.map]
    rfl

end Members

/-- Each field of each record is given at most once. Of any payload from which an event is loaded,
take any object in it that stands for a record. If it has one more member somewhere behind one of
the same name, which is that of a field, the payload is refused since the field is given twice,
however the name is spelled and whatever the values are. If it has further members with other names
than those of the fields, the same event is loaded. -/
theorem load_edited {α : Type} {f : Format α} {event : α} {text : String}
    (h : load f (some text.toUTF8) = .ok event) :
    (∀ (n text' : String), f.Edited (Repeats n) text text' →
      load f (some text'.toUTF8) = .error (.refused (.unfit (.duplicateField n)))) ∧
    ∀ text' : String, f.Edited Padded text text' → load f (some text'.toUTF8) = .ok event := by
  constructor
  · intro n text' hedited
    exact load_of_edited h hedited fun hR _ => hR.answer
  · intro text' hedited
    exact load_of_edited h hedited fun hR hxs => hR.answer hxs

/-! ## A payload -/

/-- An object without white space between its members. -/
def objectOf (xs : List Named) : List Char :=
  '\x7b' :: compact .curly true (xs.map fun x => x.2.text)

/-- An object without white space is the text of its members. -/
theorem objectText_objectOf {xs : List Named} (h : ∀ x ∈ xs, x.Formed) :
    ObjectText xs (objectOf xs) := ⟨listed_compact _ _ _, h⟩

/-- An array without white space between its elements. -/
def arrayOf (ts : List (List Char)) : List Char := '[' :: compact .square true ts

/-- An array without white space is the text of its elements. -/
theorem arrayText_arrayOf {ts : List (List Char)} (h : ∀ t ∈ ts, ValueText .skipped 0 t) :
    ArrayText ts (arrayOf ts) := ⟨listed_compact _ _ _, h⟩

/-- A member with its name in plain letters is well formed if its value is. -/
theorem plainMember_formed {name : String} {value : List Char}
    (h : name.toList.all isPlain = true) (hvalue : ValueText .skipped 0 value) :
    (plainMember name value).Formed :=
  ⟨(plainMember_form h value).1, (plainMember_form h value).2, hvalue⟩

/-- An array with one assignee, whose members are given. -/
def assigneesValue (assignee : List Named) : List Char := arrayOf ([] ++ objectOf assignee :: [])

/-- The members of an issue with one assignee. -/
def issueMembers (assignee : List Named) : List Named :=
  [plainMember "number" ['7']] ++ plainMember "assignees" (assigneesValue assignee) :: []

/-- The members of an event of a comment on the issue, whose action is `null`. -/
def eventMembers (assignee : List Named) : List Named :=
  [plainMember "action" nullText] ++ plainMember "issue" (objectOf (issueMembers assignee)) :: []

section Example

variable {assignee assignee' : List Named}

/-- The array of the assignee is one if the assignee is an object. -/
theorem arrayText_assignees (h : ∀ x ∈ assignee, x.Formed) :
    ArrayText ([] ++ objectOf assignee :: []) (assigneesValue assignee) := by
  have hobject : RecordText (objectOf assignee) := .object (objectText_objectOf h)
  exact arrayText_arrayOf (List.forall_mem_singleton.2 hobject.valueText)

/-- The members of the issue are well formed if those of the assignee are. -/
theorem issueMembers_formed (h : ∀ x ∈ assignee, x.Formed) :
    ∀ x ∈ issueMembers assignee, x.Formed := by
  have hseven : ∃ g, FigureText g (['7'] ++ ([] ++ [])) := ⟨_, .mk (by decide) .none .none⟩
  exact List.forall_mem_cons.2 ⟨plainMember_formed (by decide) (.number hseven),
    List.forall_mem_singleton.2 (plainMember_formed (by decide)
      (RecordText.array (arrayText_assignees h)).valueText)⟩

/-- The members of the event are well formed if those of the assignee are. -/
theorem eventMembers_formed (h : ∀ x ∈ assignee, x.Formed) :
    ∀ x ∈ eventMembers assignee, x.Formed :=
  List.forall_mem_cons.2 ⟨plainMember_formed (by decide) .null,
    List.forall_mem_singleton.2 (plainMember_formed (by decide)
      (RecordText.object (objectText_objectOf (issueMembers_formed h))).valueText)⟩

/-- The assignee is an object in the event. -/
theorem edited_assignee {R : Fields → List Named → List Named → Prop}
    (h : ∀ x ∈ assignee, x.Formed) (h' : ∀ x ∈ assignee', x.Formed)
    (hR : R userFields assignee assignee') :
    Edited R (.record issueCommentEvent.name issueCommentEvent.fields)
      (objectOf (eventMembers assignee)) (objectOf (eventMembers assignee')) := by
  have hlist : Edited R (.list (.record "User" userFields)) _ _ :=
    .element (arrayText_assignees h) (arrayText_assignees h')
      (.here (objectText_objectOf h) (objectText_objectOf h') hR)
  have hissue : Edited R (.optional (.record "Issue" issueFields)) _ _ :=
    .optional (.member (objectText_objectOf (issueMembers_formed h))
      (objectText_objectOf (issueMembers_formed h'))
      (.there (by decide) (.there (by decide) (.there (by decide) .here))) rfl rfl hlist)
  exact .member (objectText_objectOf (eventMembers_formed h))
    (objectText_objectOf (eventMembers_formed h')) (.there (by decide) .here) rfl rfl hissue

/-- The name of the assignee. -/
def loginMember : Named := plainMember "login" (quoted ['a'])

/-- The name of the assignee is a well formed member. -/
theorem loginMember_formed : loginMember.Formed :=
  plainMember_formed (by decide) (.string (spelling_self (by decide)).stringText)

/-- The event as it is written, where the assignee and the event may have further members. -/
def eventText (assignee event : String) : String :=
  "\x7b\"action\": null,\"issue\": \x7b\"number\": 7,\"assignees\": [\x7b\"login\": \"a\""
    ++ assignee ++ "\x7d]\x7d" ++ event ++ "\x7d"

/-- An edited event is a payload that is edited. -/
theorem edited_eventText {R : Fields → List Named → List Named → Prop} {t : List Char}
    {text : String} (htext : text.toList = t)
    (h : Edited R (.record issueCommentEvent.name issueCommentEvent.fields)
      (objectOf (eventMembers [loginMember])) t) :
    issueCommentEvent.Edited R (eventText "" "") text := by
  have hold : (eventText "" "").toList = [] ++ (objectOf (eventMembers [loginMember]) ++ []) := by
    decide +kernel
  have hspace : Space [] := by decide
  exact ⟨[], [], _, t, [], [], hspace, hspace, hspace, hspace, hold, by simpa using htext, h⟩

end Example

/-- The event is refused if the assignee has a second name, with an escape in the name of the field,
and if there is an action besides the one that is `null`. It is loaded as before if a further member
differs from a field in case. -/
theorem load_edited_event :
    let event : IssueCommentEvent :=
      { action := none
        issue := some
          { number := 7, user := none, assignees := [{ login := "a" }], isPullRequest := false }
        comment := none }
    load issueCommentEvent (some (eventText "" "").toUTF8) = .ok event ∧
    load issueCommentEvent (some (eventText ",\"\\u006cogin\": null" "").toUTF8) =
      .error (.refused (.unfit (.duplicateField "login"))) ∧
    load issueCommentEvent (some (eventText "" ",\"action\": \"b\"").toUTF8) =
      .error (.refused (.unfit (.duplicateField "action"))) ∧
    load issueCommentEvent (some (eventText "" ",\"Action\": \"b\",\"Action\": null").toUTF8) =
      .ok event := by
  intro event
  have hload : load issueCommentEvent (some (eventText "" "").toUTF8) = .ok event := by
    rw [← toOption_eq_some_iff]
    decide +kernel
  have hlogin : ∀ x ∈ [loginMember], x.Formed := List.forall_mem_singleton.2 loginMember_formed
  have hobject : ∀ xs : List Named, (∀ x ∈ xs, x.Formed) →
      ObjectText (eventMembers [loginMember] ++ xs) (objectOf (eventMembers [loginMember] ++ xs)) :=
    fun xs hxs => objectText_objectOf (List.forall_mem_append.2 ⟨eventMembers_formed hlogin, hxs⟩)
  have hb : ValueText .skipped 0 (quoted ['b']) := .string (spelling_self (by decide)).stringText
  refine ⟨hload, ?_, ?_, ?_⟩
  · have hname : Spelling "login".toList ('\\' :: 'u' :: (['0', '0', '6', 'c'] ++ "ogin".toList)) :=
      .unit (.mk rfl rfl rfl rfl rfl) (spelling_self (by decide))
    have hagain : Named.Formed ("login".toList, ⟨_, [], [' '], nullText⟩) :=
      ⟨⟨by decide, by decide⟩, hname, .null⟩
    have hpart := edited_assignee (R := Repeats "login") hlogin
      (List.forall_mem_append.2 ⟨hlogin, List.forall_mem_singleton.2 hagain⟩)
      ⟨by decide, [loginMember], _, [], ⟨loginMember, by simp, rfl⟩, rfl, rfl, rfl⟩
    exact (load_edited hload).1 "login" _ (edited_eventText (by decide +kernel) hpart)
  · have haction : (plainMember "action" (quoted ['b'])).Formed := plainMember_formed (by decide) hb
    have hpart : Edited (Repeats "action") (.record issueCommentEvent.name issueCommentEvent.fields)
        _ _ :=
      .here (hobject [] (by simp)) (hobject [_] (List.forall_mem_singleton.2 haction))
        ⟨by decide, _, _, [], ⟨_, List.mem_cons_self, rfl⟩, rfl, rfl, rfl⟩
    exact (load_edited hload).1 "action" _ (edited_eventText (by decide +kernel) hpart)
  · have hother : ∀ n ∈ issueCommentEvent.fields.names, "Action".toList ≠ n.toList :=
      List.forall_mem_cons.2 ⟨by decide, List.forall_mem_cons.2 ⟨by decide,
        List.forall_mem_singleton.2 (by decide)⟩⟩
    have hothers : ∀ x ∈ [plainMember "Action" (quoted ['b']), plainMember "Action" nullText],
        x.Formed :=
      List.forall_mem_cons.2 ⟨plainMember_formed (by decide) hb,
        List.forall_mem_singleton.2 (plainMember_formed (by decide) .null)⟩
    have hpart : Edited Padded (.record issueCommentEvent.name issueCommentEvent.fields) _ _ :=
      .here (hobject [] (by simp)) (hobject _ hothers)
        (.keep (.keep (.more hother (.more hother .nil))))
    exact (load_edited hload).2 _ (edited_eventText (by decide +kernel) hpart)

end IssueSteward.Payload
