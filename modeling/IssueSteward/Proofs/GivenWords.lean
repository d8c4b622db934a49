import IssueSteward.CommandLine.Parse
import Mathlib.Data.List.Nodup
import Mathlib.Data.List.TakeWhile

/-!
# Values from words and from variables

`Gives` says with which words an option is given a value, and `GivesAll` with which words some of
the options are, each at most once and in any order. Reading such words comes to just these values
(`read_givesAll`), since each option adds its own to what is known (`read_gives`); variables then
fill in what is missing (`addVariables_eq_ok`). `parse_given` puts the parts together, and
`words_precede_variables` says what follows for the arguments.
-/

namespace IssueSteward.CommandLine

/-! ## Words for values -/

/-- The word that names an option. -/
def Opt.word (o : Opt) : String := "--" ++ o.name

/-- The words with which an option is given a value. -/
inductive Gives (o : Opt) : String → List String → Prop
  /-- The value, whatever it is, stands after an equals sign. -/
  | joined (value : String) : Gives o value [o.word ++ "=" ++ value]
  /-- The value stands in the next word and does not begin with a dash. A switch has none there. -/
  | apart {value : String} (hbare : o.bare = none) (hdash : value.toList.head? ≠ some '-') :
      Gives o value [o.word, value]
  /-- A switch stands for a value of its own. -/
  | bare {value : String} (hbare : o.bare = some value) : Gives o value [o.word]

/-- The words with which some of the options are given values, each at most once and in any
order. -/
inductive GivesAll (os : List Opt) : Values → List String → Prop
  /-- No option is given a value. -/
  | nil : GivesAll os [] []
  /-- One more option is given a value. -/
  | snoc {vs : Values} {words more : List String} {o : Opt} {value : String}
      (h : GivesAll os vs words) (ho : o ∈ os) (hnew : vs.get? o = none)
      (hgives : Gives o value more) : GivesAll os (vs ++ [(o.name, value)]) (words ++ more)

/-- The value of an option that the words give, or else the one of its variable. -/
def Values.orVariable (vs : Values) (env : String → Option String) (o : Opt) : Option String :=
  (vs.get? o).or (env o.envName)

/-- The words that choose what is to be done. -/
inductive Chooses (env : String → Option String) : Task → List String → Prop
  /-- To unassign on request takes no option. -/
  | unassign : Chooses env .unassign [unassignWord]
  /-- To remind of the link to an issue takes the number of a pull request. -/
  | remind {vs : Values} {words : List String} (h : GivesAll remindCommand.options vs words) :
      Chooses env (.remind (vs.orVariable env pullNumberOption)) (remindWord :: words)

/-! ## Values of options -/

/-- Values that come later count only where earlier ones are missing. -/
theorem Values.get?_append (vs ws : Values) (o : Opt) :
    Values.get? (vs ++ ws) o = (vs.get? o).or (ws.get? o) := List.lookup_append

/-- The value of an option is the one under its name. -/
theorem Values.get?_singleton (o : Opt) (value : String) :
    Values.get? [(o.name, value)] o = some value := List.lookup_cons_self

/-- An option has no value under another name. -/
theorem Values.get?_singleton_of_ne {o : Opt} {name : String} (h : o.name ≠ name) (value : String) :
    Values.get? [(name, value)] o = none := by
  have hname : (o.name == name) = false := beq_false_of_ne h
  rw [Values.get?, List.lookup_cons, hname]
  rfl

/-! ## Names that can be told apart -/

/-- The names in a grammar can be told apart. -/
structure Grammar.Clear (g : Grammar) : Prop where
  /-- No two options have one name. -/
  nodup : (g.options.map Opt.name).Nodup
  /-- A name has no equals sign and is neither empty nor one of those that ask for something. -/
  plain : ∀ o ∈ g.options, '=' ∉ o.name.toList ∧ o.name ≠ "" ∧ o.name ≠ helpWord ∧
    o.name ≠ versionWord
  /-- No subcommand begins with a dash. -/
  dashless : ∀ word ∈ g.subcommands, word.toList.head? ≠ some '-'

/-- The names of the command can be told apart. -/
theorem command_clear : command.Clear := ⟨by decide, by decide, by decide⟩

/-- The names of the subcommand that reminds can be told apart. -/
theorem remindCommand_clear : remindCommand.Clear := ⟨by decide, by decide, by decide⟩

variable {g : Grammar} {o : Opt} {p : Progress} {vs : Values} {env : String → Option String}

/-- A word that begins with a dash is no subcommand. -/
theorem Grammar.Clear.isSubcommand_eq_false (hg : g.Clear) {word : String}
    (h : word.toList.head? = some '-') : g.isSubcommand word = false := by
  have hhelp : word ≠ helpWord := by
    rintro rfl
    revert h
    decide
  have hmem : word ∉ g.subcommands := fun hmem => hg.dashless word hmem h
  simp [Grammar.isSubcommand, hhelp, hmem]

/-- The option of a name is found. -/
theorem Grammar.Clear.find_eq_some (hg : g.Clear) (ho : o ∈ g.options) :
    g.options.find? (fun other => other.name == o.name) = some o := by
  have hsome : (g.options.find? fun other => other.name == o.name).isSome := by
    rw [List.find?_isSome]
    exact ⟨o, ho, beq_self_eq_true _⟩
  obtain ⟨other, hother⟩ := Option.isSome_iff_exists.1 hsome
  have hname : other.name = o.name := by simpa using List.find?_some hother
  rw [hother, List.inj_on_of_nodup_map hg.nodup (List.mem_of_find?_eq_some hother) ho hname]

/-- A name alone is split from nothing. -/
theorem splitOption_name {s : List Char} (h : '=' ∉ s) :
    splitOption s = (String.ofList s, none) := by
  have hs : ∀ c ∈ s, (c != '=') = true := by
    intro c hc
    exact bne_iff_ne.2 fun heq => h (heq ▸ hc)
  unfold splitOption
  rw [List.takeWhile_eq_self_iff.2 hs, List.dropWhile_eq_nil_iff.2 hs]

/-- A name is split from a value at the first equals sign. -/
theorem splitOption_joined {s : List Char} (h : '=' ∉ s) (value : List Char) :
    splitOption (s ++ '=' :: value) = (String.ofList s, some (String.ofList value)) := by
  have hs : ∀ c ∈ s, (c != '=') = true := by
    intro c hc
    exact bne_iff_ne.2 fun heq => h (heq ▸ hc)
  unfold splitOption
  rw [List.takeWhile_append_of_pos hs, List.dropWhile_append_of_pos hs]
  simp

/-! ## Reading -/

/-- What follows the dashes of a word is read as the option that it names. -/
theorem Progress.long_eq_option (hg : g.Clear) (ho : o ∈ g.options) {s : List Char}
    {value : Option String} (hsplit : splitOption s = (o.name, value)) :
    p.long g s = p.option o value := by
  obtain ⟨-, -, hhelp, hversion⟩ := hg.plain o ho
  unfold Progress.long
  rw [hsplit]
  simp only [hhelp, hversion, false_and, or_false, if_false, hg.find_eq_some ho]

/-- A word that is neither a subcommand nor two dashes alone is read for itself. -/
theorem read_cons {word : String} (words : List String)
    (hword : g.isSubcommand word = false ∨ p.awaits = true) (hdashes : word ≠ "--") :
    read g p (word :: words) = (p.word g word).bind fun p => read g p words := by
  have hsub : (g.isSubcommand word && !p.awaits) = false := by
    rcases hword with h | h <;> simp [h]
  conv_lhs => unfold read
  rw [if_neg (by simp [hsub]), if_neg hdashes]
  rfl

/-- A word with two dashes is read as the option that it names. -/
theorem read_option (hg : g.Clear) (ho : o ∈ g.options) (words : List String) {word : String}
    {s : List Char} (hs : word.toList = '-' :: '-' :: s) {value : Option String}
    (hsplit : splitOption s = (o.name, value)) :
    read g p (word :: words) = (p.option o value).bind fun p => read g p words := by
  have hne : s ≠ [] := by
    rintro rfl
    exact (hg.plain o ho).2.1 (congrArg Prod.fst hsplit).symm
  rw [read_cons words (.inl (hg.isSubcommand_eq_false (by rw [hs]; rfl)))]
  · unfold Progress.word
    rw [hs]
    simp only [Progress.long_eq_option hg ho hsplit]
  · rintro rfl
    have hsame : ['-', '-'] ++ s = ['-', '-'] ++ [] := hs.symm
    exact hne (List.append_cancel_left hsame)

/-- Looking at a value that an option may have adds it. -/
theorem accept_eq_ok {value : String} (hfull : o.mayBeEmpty = true ∨ value ≠ "") :
    accept o value vs = .ok (vs ++ [(o.name, value)]) := by
  have hempty : (value.isEmpty && !o.mayBeEmpty) = false := by
    rcases hfull with h | h
    · simp [h]
    · simp [String.isEmpty_iff, h]
  simp [accept, hempty]

/-- The command line gives an option a value that it may have if it gave none before. -/
theorem give_eq_ok {value : String} (hnew : vs.get? o = none)
    (hfull : o.mayBeEmpty = true ∨ value ≠ "") :
    give o value vs = .ok (vs ++ [(o.name, value)]) := by
  rw [give, hnew, accept_eq_ok hfull]
  rfl

/-- The words that give an option a value add it to what is known. -/
theorem read_gives (hg : g.Clear) (ho : o ∈ g.options) (hsettle : p.settle = .ok vs)
    (hnew : vs.get? o = none) {value : String} (hfull : o.mayBeEmpty = true ∨ value ≠ "")
    {words : List String} (h : Gives o value words) :
    ∃ q : Progress, q.settle = .ok (vs ++ [(o.name, value)]) ∧ q.awaits = false ∧
      ∀ rest, read g p (words ++ rest) = read g q rest := by
  have hgive := give_eq_ok hnew hfull
  have hname : '=' ∉ o.name.toList := (hg.plain o ho).1
  have hword : o.word.toList = '-' :: '-' :: o.name.toList := by
    rw [Opt.word, String.toList_append]
    rfl
  have hsplit : splitOption o.name.toList = (o.name, none) := by
    rw [splitOption_name hname, String.ofList_toList]
  cases h with
  | joined =>
    refine ⟨{ given := vs ++ [(o.name, value)] }, rfl, rfl, fun rest => ?_⟩
    have hjoined : (o.word ++ "=" ++ value).toList =
        '-' :: '-' :: (o.name.toList ++ '=' :: value.toList) := by
      simp [hword]
    have hsplit' : splitOption (o.name.toList ++ '=' :: value.toList) = (o.name, some value) := by
      rw [splitOption_joined hname, String.ofList_toList, String.ofList_toList]
    rw [List.singleton_append, read_option hg ho rest hjoined hsplit']
    simp [Progress.option, hsettle, hgive, bind, Except.bind, pure, Except.pure]
  | apart hbare hdash =>
    refine ⟨{ given := vs, pending := some (o, some value) }, hgive, rfl, fun rest => ?_⟩
    have hvalue : value ≠ "--" := by
      rintro rfl
      exact hdash rfl
    rw [List.cons_append, List.singleton_append, read_option hg ho _ hword hsplit]
    simp only [Progress.option, hsettle, hbare, bind, Except.bind, pure, Except.pure,
      Option.or_none]
    -- the option waits for its value, so that the next word cannot be a subcommand
    rw [read_cons rest (.inr rfl) hvalue]
    unfold Progress.word
    split
    · rename_i hdashes
      rw [hdashes] at hdash
      exact absurd rfl hdash
    · rename_i hdashes
      rw [hdashes] at hdash
      exact absurd rfl hdash
    · rfl
  | bare hbare =>
    refine ⟨{ given := vs ++ [(o.name, value)] }, rfl, rfl, fun rest => ?_⟩
    rw [List.singleton_append, read_option hg ho rest hword hsplit]
    simp [Progress.option, hsettle, hbare, hgive, bind, Except.bind, pure, Except.pure]

/-- The words that give options values come to these values, where each option may have its own. -/
theorem read_givesAll (hg : g.Clear) {words : List String} (h : GivesAll g.options vs words)
    (hfull : ∀ o ∈ g.options, o.mayBeEmpty = true ∨ vs.get? o ≠ some "") :
    ∃ p : Progress, p.settle = .ok vs ∧ p.awaits = false ∧
      ∀ rest, read g {} (words ++ rest) = read g p rest := by
  induction h with
  | nil => exact ⟨{}, rfl, rfl, fun _ => rfl⟩
  | @snoc vs words more o value h ho hnew hgives ih =>
    have hearlier : ∀ o ∈ g.options, o.mayBeEmpty = true ∨ vs.get? o ≠ some "" := by
      intro other hother
      refine (hfull other hother).imp_right fun hne hempty => hne ?_
      rw [Values.get?_append, hempty]
      rfl
    have hvalue : o.mayBeEmpty = true ∨ value ≠ "" := by
      refine (hfull o ho).imp_right fun hne hempty => hne ?_
      rw [Values.get?_append, hnew, Values.get?_singleton, hempty]
      rfl
    obtain ⟨p, hsettle, -, hread⟩ := ih hearlier
    obtain ⟨q, hq, hawaits, hmore⟩ := read_gives hg ho hsettle hnew hvalue hgives
    refine ⟨q, hq, hawaits, fun rest => ?_⟩
    rw [List.append_assoc, hread, hmore]

/-! ## Variables -/

/-- The variable of an option fills in its value if it has none, and changes no other one. -/
theorem addVariables_cons {os : List Opt}
    (hfull : o.mayBeEmpty = true ∨ vs.orVariable env o ≠ some "") :
    ∃ us : Values, addVariables env (o :: os) vs = addVariables env os us ∧
      us.get? o = vs.orVariable env o ∧
      ∀ other : Opt, other.name ≠ o.name → us.get? other = vs.get? other := by
  rw [addVariables, Values.orVariable]
  cases hget : vs.get? o with
  | some value => exact ⟨vs, rfl, hget, fun _ _ => rfl⟩
  | none =>
    cases hvariable : env o.envName with
    | none => exact ⟨vs, rfl, hget, fun _ _ => rfl⟩
    | some value =>
      have hvalue : o.mayBeEmpty = true ∨ value ≠ "" := by
        refine hfull.imp_right fun hne hempty => hne ?_
        rw [Values.orVariable, hget, hvariable, hempty]
        rfl
      refine ⟨vs ++ [(o.name, value)], ?_, ?_, fun other hne => ?_⟩
      · simp only [accept_eq_ok hvalue]
        rfl
      · rw [Values.get?_append, hget, Values.get?_singleton, Option.none_or]
      · rw [Values.get?_append, Values.get?_singleton_of_ne hne, Option.or_none]

/-- Variables fill in the values of the options that have none, and change no other ones. -/
theorem addVariables_eq_ok {os : List Opt} (hnodup : (os.map Opt.name).Nodup)
    (hfull : ∀ o ∈ os, o.mayBeEmpty = true ∨ vs.orVariable env o ≠ some "") :
    ∃ ws, addVariables env os vs = .ok ws ∧ (∀ o ∈ os, ws.get? o = vs.orVariable env o) ∧
      ∀ o : Opt, o.name ∉ os.map Opt.name → ws.get? o = vs.get? o := by
  -- By induction on the options, whose names differ: what one adds is not looked at by the others.
  induction os generalizing vs with
  | nil => exact ⟨vs, rfl, by simp, fun _ _ => rfl⟩
  | cons o os ih =>
    obtain ⟨hother, hnodup⟩ := List.nodup_cons.1 hnodup
    obtain ⟨us, hadd, hhead, hsame⟩ := addVariables_cons (hfull o List.mem_cons_self)
    have hlater : ∀ other ∈ os, us.orVariable env other = vs.orVariable env other := by
      intro other hmem
      have hne : other.name ≠ o.name := fun h => hother (h ▸ List.mem_map_of_mem hmem)
      rw [Values.orVariable, hsame other hne, Values.orVariable]
    have hfull' : ∀ other ∈ os, other.mayBeEmpty = true ∨ us.orVariable env other ≠ some "" := by
      intro other hmem
      rw [hlater other hmem]
      exact hfull other (List.mem_cons_of_mem _ hmem)
    obtain ⟨ws, hws, hvalues, hrest⟩ := ih hnodup hfull'
    refine ⟨ws, hadd.trans hws, ?_, fun other hmem => ?_⟩
    · intro other hmem
      rcases List.mem_cons.1 hmem with rfl | hmem
      · rw [hrest _ hother, hhead]
      · rw [hvalues other hmem, hlater other hmem]
    · rw [List.map_cons, List.mem_cons, not_or] at hmem
      rw [hrest other hmem.2, hsame other hmem.1]

/-! ## Arguments -/

/-- The words that choose what is to be done are a subcommand and what goes with it. -/
theorem task_of_chooses {t : Task} {words : List String} (h : Chooses env t words) :
    ∃ word rest, words = word :: rest ∧ command.isSubcommand word = true ∧
      task env word rest = .ok t := by
  cases h with
  | unassign => exact ⟨unassignWord, [], rfl, by decide, rfl⟩
  | @remind vs words h =>
    refine ⟨remindWord, words, rfl, by decide, ?_⟩
    have hempty : ∀ o ∈ remindCommand.options, o.mayBeEmpty = true := by decide
    have hfull : ∀ o ∈ remindCommand.options,
        o.mayBeEmpty = true ∨ vs.orVariable env o ≠ some "" := fun o ho => .inl (hempty o ho)
    obtain ⟨p, hsettle, -, hread⟩ :=
      read_givesAll remindCommand_clear h fun o ho => .inl (hempty o ho)
    obtain ⟨ws, hadd, hvalues, -⟩ := addVariables_eq_ok remindCommand_clear.nodup hfull
    have hend := hread []
    rw [List.append_nil] at hend
    have hvalues := hvalues pullNumberOption List.mem_cons_self
    unfold task subcommandValues conclude
    rw [if_neg (by decide), if_pos rfl, hend]
    simp only [read, bind, Except.bind, hsettle, hadd, pure, Except.pure, hvalues]

/-- Values of options either make arguments, each of them the value of its option, or lack one that
is required. -/
theorem arguments_cases (vs : Values) (t : Task) :
    (∃ a, arguments vs (some t) = .ok a ∧ some a.repository = vs.get? repositoryOption ∧
      a.token = vs.get? tokenOption ∧ a.apiUrl = vs.get? apiUrlOption ∧
      some a.eventPath = vs.get? eventPathOption ∧ a.dryRun = vs.get? dryRunOption ∧
      a.task = t) ∨
    arguments vs (some t) = .error .missingRequired ∧
      (vs.get? repositoryOption = none ∨ vs.get? eventPathOption = none) := by
  unfold arguments
  cases hrepository : vs.get? repositoryOption with
  | none => exact .inr ⟨rfl, .inl rfl⟩
  | some repository =>
    cases heventPath : vs.get? eventPathOption with
    | none => exact .inr ⟨rfl, .inr rfl⟩
    | some eventPath => exact .inl ⟨_, rfl, rfl, rfl, rfl, rfl, rfl, rfl⟩

/-- Values that agree on the options of the command make the same arguments. -/
theorem arguments_congr {ws : Values} {t : Task}
    (h : ∀ o ∈ command.options, vs.get? o = ws.get? o) :
    arguments vs (some t) = arguments ws (some t) := by
  simp only [arguments, h repositoryOption (by decide), h tokenOption (by decide),
    h apiUrlOption (by decide), h eventPathOption (by decide), h dryRunOption (by decide)]

/-- What a command line comes to whose words before the subcommand give options values: the
arguments that these values make, with those of variables for the other options. -/
theorem parse_given {given words : List String} {t : Task}
    (hgiven : GivesAll command.options vs given) (ht : Chooses env t words)
    (hpath : vs.orVariable env eventPathOption ≠ some "") :
    ∃ ws : Values, (∀ o ∈ command.options, ws.get? o = vs.orVariable env o) ∧
      parse (given ++ words) env = arguments ws (some t) := by
  have hfull : ∀ o ∈ command.options,
      o.mayBeEmpty = true ∨ vs.orVariable env o ≠ some "" := by
    intro o ho
    have hone : ∀ o ∈ command.options, o.mayBeEmpty = true ∨ o = eventPathOption := by decide
    exact (hone o ho).imp_right fun heq : o = eventPathOption => heq ▸ hpath
  obtain ⟨p, hsettle, hawaits, hread⟩ := read_givesAll command_clear hgiven fun o ho => by
    refine (hfull o ho).imp_right fun hne hempty => hne ?_
    rw [Values.orVariable, hempty]
    rfl
  obtain ⟨ws, hadd, hvalues, -⟩ := addVariables_eq_ok command_clear.nodup hfull
  obtain ⟨word, rest, rfl, hword, htask⟩ := task_of_chooses ht
  have hsub : (command.isSubcommand word && !p.awaits) = true := by simp [hword, hawaits]
  have hstop : read command p (word :: rest) = .ok (p, some (word, rest)) := by
    conv_lhs => unfold read
    rw [if_pos hsub]
  refine ⟨ws, hvalues, ?_⟩
  unfold parse conclude
  rw [hread, hstop]
  simp only [bind, Except.bind, htask, hsettle, hadd, Functor.map, Except.map]

/-- A switch alone among the words that give options values stands for the value of its own. -/
theorem get?_of_bare (hg : g.Clear) {words : List String} (h : GivesAll g.options vs words)
    (ho : o ∈ g.options) {value : String} (hbare : o.bare = some value) (hmem : o.word ∈ words) :
    vs.get? o = some value := by
  induction h with
  | nil => cases hmem
  | @snoc vs words more other given h hother hnew hgives ih =>
    rw [Values.get?_append]
    rcases List.mem_append.1 hmem with hmem | hmem
    · rw [ih hmem]
      rfl
    · -- only the option itself is given by its word alone
      have hsame : o.word = other.word → o = other := by
        intro heq
        have hname : o.name = other.name := by
          simpa [Opt.word, String.ext_iff] using heq
        exact List.inj_on_of_nodup_map hg.nodup ho hother hname
      cases hgives with
      | joined =>
        rw [List.mem_singleton] at hmem
        have hequals : '=' ∈ o.word.toList := by simp [hmem]
        exact absurd (by simpa [Opt.word] using hequals) (hg.plain o ho).1
      | apart hnone hdash =>
        rcases List.mem_cons.1 hmem with hmem | hmem
        · rw [hsame hmem, hnone] at hbare
          cases hbare
        · rw [List.mem_singleton] at hmem
          exact absurd (by simp [← hmem, Opt.word]) hdash
      | bare hvalue =>
        obtain rfl := hsame (List.mem_singleton.1 hmem)
        rw [hnew, Values.get?_singleton, ← hvalue, hbare]
        rfl

/-- Values of the command line come before those of the environment, for every option, in any order
and spelling. The words may give any of the options of the command values, each at most once, before
they choose what is to be done; a path of the payload file that is used must not be empty. Then
nothing is amiss exactly if the repository and this path are in one place or the other, and
otherwise the command ends with status 2. Each argument is the value that the words give, or else
the one of its variable, or else none. The switch alone says that nothing is to be changed, whatever
its variable says, and the variable for the number of a pull request has no bearing on
unassignment. -/
theorem words_precede_variables {given words : List String} {t : Task}
    (hgiven : GivesAll command.options vs given) (ht : Chooses env t words)
    (hpath : vs.orVariable env eventPathOption ≠ some "") :
    ((∃ a, parse (given ++ words) env = .ok a) ↔
      (vs.orVariable env repositoryOption).isSome ∧ (vs.orVariable env eventPathOption).isSome) ∧
    (∀ fault, parse (given ++ words) env = .error fault → fault.exitStatus = 2) ∧
    (∀ a, parse (given ++ words) env = .ok a →
      some a.repository = vs.orVariable env repositoryOption ∧
      a.token = vs.orVariable env tokenOption ∧
      a.apiUrl = vs.orVariable env apiUrlOption ∧
      some a.eventPath = vs.orVariable env eventPathOption ∧
      a.dryRun = vs.orVariable env dryRunOption ∧
      a.task = t ∧
      (dryRunOption.word ∈ given → a.dryRun = some "true")) ∧
    (t = .unassign → ∀ env' : String → Option String,
      (∀ name, name ≠ pullNumberOption.envName → env' name = env name) →
        parse (given ++ words) env' = parse (given ++ words) env) := by
  obtain ⟨ws, hvalues, hparse⟩ := parse_given hgiven ht hpath
  rw [← hvalues repositoryOption (by decide), ← hvalues tokenOption (by decide),
    ← hvalues apiUrlOption (by decide), ← hvalues eventPathOption (by decide),
    ← hvalues dryRunOption (by decide)]
  refine ⟨?_, ?_, ?_, ?_⟩
  · rw [hparse]
    rcases arguments_cases ws t with
      ⟨a, ha, hrepository, -, -, heventPath, -⟩ | ⟨herror, hmissing⟩
    · rw [← hrepository, ← heventPath]
      exact ⟨fun _ => ⟨rfl, rfl⟩, fun _ => ⟨a, ha⟩⟩
    · rw [herror]
      rcases hmissing with hnone | hnone <;> simp [hnone]
  · intro fault hfault
    rw [hparse] at hfault
    rcases arguments_cases ws t with ⟨a, ha, -⟩ | ⟨herror, -⟩
    · rw [ha] at hfault
      cases hfault
    · rw [herror] at hfault
      cases hfault
      rfl
  · intro a ha
    rw [hparse] at ha
    rcases arguments_cases ws t with
      ⟨b, hb, hrepository, htoken, hapiUrl, heventPath, hdryRun, htask⟩ | ⟨herror, -⟩
    · rw [hb] at ha
      cases ha
      refine ⟨hrepository, htoken, hapiUrl, heventPath, hdryRun, htask, fun hmem => ?_⟩
      have hbare := get?_of_bare command_clear hgiven (by decide) rfl hmem
      rw [hdryRun, hvalues dryRunOption (by decide), Values.orVariable, hbare]
      rfl
    · rw [herror] at ha
      cases ha
  · rintro rfl env' henv
    have hsame : ∀ o ∈ command.options, vs.orVariable env' o = vs.orVariable env o := by
      intro o ho
      have hname : ∀ o ∈ command.options, o.envName ≠ pullNumberOption.envName := by decide
      rw [Values.orVariable, henv _ (hname o ho), Values.orVariable]
    cases ht
    have hpath' : vs.orVariable env' eventPathOption ≠ some "" := by
      rwa [hsame eventPathOption (by decide)]
    obtain ⟨us, hothers, hparse'⟩ := parse_given hgiven .unassign hpath'
    rw [hparse, hparse']
    exact arguments_congr fun o ho => by rw [hothers o ho, hsame o ho, hvalues o ho]

/-- A value that reads like a subcommand, a switch alone and a number of a pull request, each of
which the environment gives otherwise. -/
theorem words_precede_variables_numbered :
    let env : String → Option String := fun name => List.lookup name
      [("GITHUB_REPOSITORY", "other/place"), ("GITHUB_EVENT_PATH", "event.json"),
        ("DRY_RUN", "false"), ("PR_NUMBER", "9")]
    ∃ a, parse (["--dry-run", "--token", "unassign", "--repository=octo/repo"] ++
        ["missing-issue-link", "--pr-number=7"]) env = .ok a ∧
      a.dryRun = some "true" ∧ a.token = some "unassign" ∧ a.repository = "octo/repo" ∧
      a.eventPath = "event.json" ∧ a.task = .remind (some "7") := by
  intro env
  have hswitch : GivesAll command.options [("dry-run", "true")] ["--dry-run"] :=
    .snoc (o := dryRunOption) .nil (by decide) rfl (.bare rfl)
  have htoken : GivesAll command.options [("dry-run", "true"), ("token", "unassign")]
      ["--dry-run", "--token", "unassign"] :=
    .snoc (o := tokenOption) hswitch (by decide) rfl (.apart rfl (by decide))
  have hgiven : GivesAll command.options
      [("dry-run", "true"), ("token", "unassign"), ("repository", "octo/repo")]
      ["--dry-run", "--token", "unassign", "--repository=octo/repo"] :=
    .snoc (o := repositoryOption) htoken (by decide) rfl (.joined "octo/repo")
  have hnumber : GivesAll remindCommand.options [("pr-number", "7")] ["--pr-number=7"] :=
    .snoc (o := pullNumberOption) .nil (by decide) rfl (.joined "7")
  have hpath : Values.orVariable
      [("dry-run", "true"), ("token", "unassign"), ("repository", "octo/repo")] env
      eventPathOption ≠ some "" := by decide
  obtain ⟨hok, -, hvalues, -⟩ := words_precede_variables hgiven (.remind hnumber) hpath
  obtain ⟨a, ha⟩ := hok.2 (by decide)
  obtain ⟨hrepository, htoken, -, hpath, -, htask, hdry⟩ := hvalues a ha
  exact ⟨a, ha, hdry (by decide), htoken, Option.some.inj hrepository, Option.some.inj hpath, htask⟩

end IssueSteward.CommandLine
