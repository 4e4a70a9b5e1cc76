import TransitionMap.Proofs.Agreeing
import TransitionMap.Proofs.Defaulting

/-!
# Arguments override settings

Where no description is given, the automaton is that of a pattern: the given one before that of the
settings, compiled as the settings say but for the anchoring, which an argument may take away
(`Program.automaton_of_pattern`). Where one is given, it alone decides
(`Program.automaton_of_description`). The largest number of states is the one thing that both kinds
of sources take from the settings unless it is given (`Program.table_eq`, `Program.compileInto_eq`).

Every command makes a table or compiles into a store (`Program.madeOf`), so that nothing else of the
settings for compiling and of the source matters to it (`Program.command_congr`). A whole command is
therefore the same when what it takes from the settings is given instead
(`Program.command_of_pattern`), and with a description it is the same under every pattern and all
ways to compile it (`Program.command_of_description`).

With settings that are resolved key by key this is the whole way of an option, from the defaults by
way of a document to the arguments (`Program.arguments_override_settings`).
-/

namespace TransitionMap

namespace Program

open CommandLine

variable {m : Type → Type} [Monad m] [LawfulMonad m]

/-! ## The source -/

theorem asking_pure {ε α : Type} (refused : ε → Failure) (x : Except ε α) :
    asking (m := m) refused (pure x) =
      match x with
      | .ok a => pure a
      | .error e => throw (refused e) := by
  apply ExceptT.ext
  cases x with
  | error e => simp [asking, Except.mapError]
  | ok a => simp [asking, Except.mapError]

/-- The pattern of the arguments or else of the settings, as both want it compiled. -/
theorem automaton_of_pattern (host : Host m) (s : CompileSettings) {g : Given} (h : g.dfa = none) :
    automaton host s g.source = asking .source (pure (Source.ofPattern (g.pattern.getD s.pattern)
      ⟨s.options.anchored && !g.unanchored, s.options.minimize⟩)) := by
  have horigin : automaton host s g.source =
      automaton.ofPattern s g.source (g.pattern.getD s.pattern) := by
    cases hpattern : g.pattern <;> simp [automaton, Given.source, h, hpattern]
  have hoptions : g.source.options s =
      ⟨s.options.anchored && !g.unanchored, s.options.minimize⟩ := rfl
  rw [horigin, automaton.ofPattern, hoptions, asking_pure]
  cases Source.ofPattern (g.pattern.getD s.pattern) _ <;> rfl

theorem origin_of_dfa {g : Given} {path : String} (h : g.dfa = some path) :
    g.source.origin = .description path := by
  rw [Given.source, h]

omit [LawfulMonad m] in
/-- A description is read without a look at the settings or the other arguments. -/
theorem automaton_of_description (host : Host m) (s s' : CompileSettings) {r r' : SourceRequest}
    {path : String} (h : r.origin = .description path) (h' : r'.origin = .description path) :
    automaton host s r = automaton host s' r' := by
  simp only [automaton, h, h']

/-! ## What is made of it -/

theorem table_eq (host : Host m) (s : CompileSettings) (r : SourceRequest) :
    table host s r = automaton host s r >>= fun a =>
      asking .compile (pure (Table.plan a (r.limit s))) := by
  refine bind_congr fun a => ?_
  rw [asking_pure]
  cases Table.plan a (r.limit s) <;> rfl

theorem compileInto_eq {τ : Type} [Store τ] (host : Host m) (s : CompileSettings)
    (r : SourceRequest) (store : τ) :
    compileInto host s r store = automaton host s r >>= fun a =>
      asking .compile (pure ((Table.compile a (r.limit s) store).1.map
        (·, (Table.compile a (r.limit s) store).2))) := by
  refine bind_congr fun a => ?_
  rw [asking_pure]
  rcases Table.compile a (r.limit s) store with ⟨_ | summary, store'⟩ <;> rfl

/-- What the commands on a source are made of: its table or a compilation of it into a store, and
what they do before and after. -/
structure MadeOf (host : Host m) (s : Settings) (r : SourceRequest) : Prop where
  check : command host s (.check r) = table host s.compile r >>= fun t => pure { output :=
    "states=" ++ t.stateCount.repr ++ " entries=" ++ t.size.repr ++ " accepting=" ++
      t.acceptingTargets.repr ++ "\n" }
  dump : ∀ color, command host s (.dump r none color) = table host s.compile r >>= fun t =>
    colored host color >>= fun flag =>
      pure { output := TransitionMap.dump (.ofFlag flag) t.entries }
  compile : ∀ target strict, command host s (.compile r target strict) =
    compile host s r target >>= fun summary =>
      pure { output := summary.text ++ "\n", failure := summary.failure? strict }
  dev : ∀ interface,
    Program.compile host s r (.dev interface) =
      Program.compile host s r (.map (s.map.pinPath interface))
  map : ∀ path, Program.compile host s r (.map path) =
    asking (.openMap path) (host.openMap path) >>= fun map =>
      compileInto host s.compile r map >>= fun done =>
        ExceptT.lift (host.keep path done.2.map) >>= fun _ => pure done.1
  image : ∀ path, Program.compile host s r (.image path) =
    compileInto host s.compile r ImageBuffer.new >>= fun done =>
      asking (.image path) (pure done.2.toImage) >>= fun image =>
        asking (.write path) (host.writeFile path image.toBytes) >>= fun _ => pure done.1
  dryRun : Program.compile host s r .dryRun =
    compileInto host s.compile r MemoryStore.new >>= fun done => pure done.1

theorem madeOf (host : Host m) (s : Settings) (r : SourceRequest) : MadeOf host s r where
  check := rfl
  dump color := by simp only [command, pure_bind]
  compile _ _ := rfl
  dev _ := rfl
  map _ := rfl
  image path := by
    refine bind_congr fun done => ?_
    rw [asking_pure]
    cases himage : done.2.toImage with
    | error e => simp only [himage, throw_bind]
    | ok image => simp only [himage, pure_bind]
  dryRun := rfl

/-- Sources that are compiled into stores in the same way are compiled into targets in the same
way, if maps are pinned at the same paths. -/
theorem compile_congr (host : Host m) {s s' : Settings} {r r' : SourceRequest}
    (hinto : ∀ {τ : Type} [Store τ] (store : τ),
      compileInto host s'.compile r' store = compileInto host s.compile r store)
    (hmap : s'.map = s.map) (target : Target) :
    compile host s' r' target = compile host s r target := by
  have made := madeOf host s r
  have made' := madeOf host s' r'
  have hpinned : ∀ path, compile host s' r' (.map path) = compile host s r (.map path) := by
    intro path
    rw [made.map, made'.map]
    simp only [hinto]
  cases target with
  | dev interface => rw [made.dev, made'.dev, hmap, hpinned]
  | map path => exact hpinned path
  | image path => rw [made.image, made'.image, hinto]
  | dryRun => rw [made.dryRun, made'.dryRun, hinto]

/-- Commands that are given the same but for their patterns, their anchoring and their limits do the
same, if their automata are made in the same way and may have the same number of states. -/
theorem command_congr (host : Host m) (s : Settings) (set : CompileSettings) (g : Given)
    (pattern : Option String) (unanchored : Bool) (maxStates : Option Nat)
    (hautomaton : automaton host set { g with pattern, unanchored, maxStates }.source =
      automaton host s.compile g.source)
    (hlimit : { g with pattern, unanchored, maxStates }.source.limit set =
      g.source.limit s.compile)
    {v : Verb} {c : Command} (hc : g.command? v = some c) :
    ∃ c', { g with pattern, unanchored, maxStates }.command? v = some c' ∧
      command host { s with compile := set } c' = command host s c := by
  set g' : Given := { g with pattern, unanchored, maxStates }
  set s' : Settings := { s with compile := set }
  have htable : table host s'.compile g'.source = table host s.compile g.source := by
    rw [table_eq, table_eq, hautomaton, hlimit]
  have hinto : ∀ {τ : Type} [Store τ] (store : τ),
      compileInto host s'.compile g'.source store = compileInto host s.compile g.source store :=
    fun store => by rw [compileInto_eq, compileInto_eq, hautomaton, hlimit]
  have made := madeOf host s g.source
  have made' := madeOf host s' g'.source
  cases v with
  | check =>
    obtain rfl := Option.some.inj hc
    exact ⟨_, rfl, by rw [made.check, made'.check, htable]⟩
  | dump =>
    obtain rfl := Option.some.inj hc
    have himage : g'.image = g.image := rfl
    have hcolor : g'.color = g.color := rfl
    exact ⟨_, rfl, by simp only [command, htable, himage, hcolor]⟩
  | compile =>
    obtain ⟨target, htarget, rfl⟩ := Option.map_eq_some_iff.1 hc
    have htarget' : g'.target? = some target := htarget
    refine ⟨.compile g'.source target g'.strict, by rw [Given.command?, htarget']; rfl, ?_⟩
    rw [made.compile, made'.compile, compile_congr host hinto rfl target]

/-- Where a description is given, nothing depends on which pattern is given or set, nor on how it
would be compiled. -/
theorem command_of_description (host : Host m) (s : Settings) {g : Given} {path : String}
    (h : g.dfa = some path) {v : Verb} {c : Command} (hc : g.command? v = some c)
    (pattern : Option String) (unanchored : Bool) (text : String) (options : Pattern.Options) :
    ∃ c', { g with pattern, unanchored }.command? v = some c' ∧
      command host { s with compile := { s.compile with pattern := text, options } } c' =
        command host s c := by
  refine command_congr host s _ g pattern unanchored g.maxStates ?_ ?_ hc
  · exact automaton_of_description host _ _ (origin_of_dfa h) (origin_of_dfa h)
  · rfl

/-- Where no description is given, a command does what it would do if pattern, anchoring and limit
had been given as they are resolved, and the rest of them had been set otherwise. -/
theorem command_of_pattern (host : Host m) (s : Settings) {g : Given} (h : g.dfa = none)
    {v : Verb} {c : Command} (hc : g.command? v = some c) (text : String) (limit : Nat) :
    ∃ c', { g with
          pattern := some (g.pattern.getD s.compile.pattern)
          unanchored := false
          maxStates := some (g.maxStates.getD s.compile.maxStates) }.command? v = some c' ∧
      command host { s with compile :=
          { pattern := text
            options := ⟨s.compile.options.anchored && !g.unanchored, s.compile.options.minimize⟩
            maxStates := limit } } c' = command host s c := by
  refine command_congr host s _ g _ false _ ?_ ?_ hc
  · rw [automaton_of_pattern host s.compile h]
    refine Eq.trans (automaton_of_pattern host _ h) ?_
    simp
  · rfl

/-! ## From the document to the arguments -/

/-- Every setting of a document is resolved by its own key, and the arguments override settings one
by one: the pattern and its anchoring where there is no description, the limit in all cases. Every
command makes the table of this source or compiles it into a store. Without a description it does
what it would do with all of that given as it is resolved; with a description the outcome does not
depend on pattern, anchoring and minimizing. -/
theorem arguments_override_settings {text : String} {document : Toml.Members} {s : Settings}
    (parsed : Toml.parse? text = some document) (loaded : Settings.parse? text = some s)
    (sectioned : Settings.Sectioned document) (host : Host m) (g : Given) :
    Settings.KeyByKey document s ∧
      (g.dfa = none →
        automaton host s.compile g.source =
          asking .source (pure (Source.ofPattern (g.pattern.getD s.compile.pattern)
            ⟨s.compile.options.anchored && !g.unanchored, s.compile.options.minimize⟩))) ∧
      (table host s.compile g.source = automaton host s.compile g.source >>= fun a =>
        asking .compile (pure (Table.plan a (g.maxStates.getD s.compile.maxStates)))) ∧
      (∀ {τ : Type} [Store τ] (store : τ),
        compileInto host s.compile g.source store = automaton host s.compile g.source >>= fun a =>
          let result := Table.compile a (g.maxStates.getD s.compile.maxStates) store
          asking .compile (pure (result.1.map (·, result.2)))) ∧
      MadeOf host s g.source ∧
      (g.dfa = none → ∀ v c, g.command? v = some c → ∀ text limit, ∃ c',
        { g with
            pattern := some (g.pattern.getD s.compile.pattern)
            unanchored := false
            maxStates := some (g.maxStates.getD s.compile.maxStates) }.command? v = some c' ∧
          command host { s with compile :=
            { pattern := text
              options := ⟨s.compile.options.anchored && !g.unanchored, s.compile.options.minimize⟩
              maxStates := limit } } c' = command host s c) ∧
      ∀ path, g.dfa = some path → ∀ v c, g.command? v = some c →
        ∀ pattern unanchored text options, ∃ c',
          { g with pattern, unanchored }.command? v = some c' ∧
            command host { s with compile := { s.compile with pattern := text, options } } c' =
              command host s c :=
  ⟨Settings.keyByKey_of_parse parsed loaded sectioned,
    fun h => automaton_of_pattern host s.compile h,
    table_eq host s.compile g.source,
    fun store => compileInto_eq host s.compile g.source store,
    madeOf host s g.source,
    fun h _ _ hc text limit => command_of_pattern host s h hc text limit,
    fun _ h _ _ hc pattern unanchored text options =>
      command_of_description host s h hc pattern unanchored text options⟩

set_option maxRecDepth 2000 in
/-- Settings that name a few keys, not all of them known, overridden by a pattern or by a
description. -/
theorem arguments_override_partial_settings :
    let text := "compile.minimize = false\ncompile.max_states = 128\n[other]\nx = 1"
    let document : Toml.Members :=
      [("compile", .table .dotted [("minimize", .boolean false), ("max_states", .integer 128)]),
        ("other", .table .declared [("x", .integer 1)])]
    let s : Settings := { compile := { options := { minimize := false }, maxStates := 128 } }
    let byPattern : Given := { pattern := some "ab", unanchored := true }
    let byDescription : Given := { dfa := some "a.json", maxStates := some 4 }
    Toml.parse? text = some document ∧ Settings.parse? text = some s ∧
      Settings.Sectioned document ∧ Settings.KeyByKey document s ∧
      automaton Folder.host s.compile byPattern.source =
        asking .source (pure (Source.ofPattern "ab" ⟨false, false⟩)) ∧
      (table Folder.host s.compile byPattern.source =
        automaton Folder.host s.compile byPattern.source >>= fun a =>
          asking .compile (pure (Table.plan a 128))) ∧
      MadeOf Folder.host s byPattern.source ∧
      (∃ c, { byPattern with unanchored := false, maxStates := some 128 }.command? .check = some c ∧
        command Folder.host { compile := { pattern := "c", options := ⟨false, false⟩ } } c =
          command Folder.host s (.check ⟨.pattern "ab", true, none⟩)) ∧
      ∃ c, { byDescription with pattern := some "ab" }.command? .check = some c ∧
        command Folder.host { s with compile := { s.compile with pattern := "c" } } c =
          command Folder.host s (.check ⟨.description "a.json", false, some 4⟩) := by
  intro text document s byPattern byDescription
  have parsed : Toml.parse? text = some document := by
    simp only [text, document]
    cbv
  have loaded : Settings.parse? text = some s := by
    rw [Settings.parse?, parsed]
    rfl
  have sectioned : Settings.Sectioned document := by
    simp [Settings.Sectioned, document]
  obtain ⟨resolved, pattern, table, -, made, given, -⟩ :=
    arguments_override_settings parsed loaded sectioned Folder.host byPattern
  obtain ⟨-, -, -, -, -, -, description⟩ :=
    arguments_override_settings parsed loaded sectioned Folder.host byDescription
  exact ⟨parsed, loaded, sectioned, resolved, pattern rfl, table, made,
    given rfl .check _ rfl "c" StateId.count,
    description "a.json" rfl .check _ rfl (some "ab") false "c" s.compile.options⟩

end Program

end TransitionMap
