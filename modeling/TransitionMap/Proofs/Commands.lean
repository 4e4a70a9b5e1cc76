import Mathlib
import TransitionMap.Program
import TransitionMap.Proofs.Folders
import TransitionMap.Proofs.Image.Collecting
import TransitionMap.Proofs.Listing

/-!
# Image files that commands write and list

Compiling into an image file means, on any host, to plan the table of the source and to write the
image of its entries; the buffer in between can neither refuse an entry nor be unreadable
(`Program.compile_image_eq`). In a folder the file can be read again, holds the entries of the table
in key order, and is listed as the source itself is (`Folder.dump_compiled_image`).
-/

namespace TransitionMap

open CommandLine

/-- The bytes of a text are read as that text. -/
theorem Host.decode_toUTF8 (text : String) : Host.decode text.toUTF8.data.toList = .ok text := by
  have htext : String.fromUTF8? text.toUTF8 = some text := dif_pos text.isValidUTF8
  rw [Host.decode, Array.toArray_toList, htext]

/-- What is printed when no write has been refused, `strict` or not. -/
theorem Report.of_complete (attempted : Nat) (strict : Bool) :
    ({ output := WriteSummary.text ⟨attempted, []⟩ ++ "\n"
       failure := WriteSummary.failure? ⟨attempted, []⟩ strict } : Report) =
      { output := "attempted=" ++ attempted.repr ++ " failed=0\n" } := by
  have hnone : WriteSummary.failure? ⟨attempted, []⟩ strict = none := by
    simp [WriteSummary.failure?, WriteSummary.isComplete]
  have hend : " failed=" ++ (Nat.repr 0 ++ "\n") = " failed=0\n" := by decide
  rw [hnone, WriteSummary.text, WriteSummary.failed, List.length_nil]
  simp only [String.append_assoc, hend]

/-! ## On any host -/

namespace Program

variable {m : Type → Type} [Monad m] [LawfulMonad m] {α β : Type}

theorem throw_bind (e : Failure) (k : α → Run m β) : (throw e : Run m α) >>= k = throw e := by
  apply ExceptT.ext
  rw [ExceptT.run_bind, ExceptT.run_throw, pure_bind, ExceptT.run_throw]

/-- Compiling a source into a store of the right layout goes on as planning it does, if both go on
alike from every table. -/
theorem compileInto_bind {τ : Type} [Store τ] (host : Host m) (s : CompileSettings)
    (r : SourceRequest) {store : τ} (layout : Store.checkLayout store = .ok ())
    {k : WriteSummary × τ → Run m β} {l : Table → Run m β}
    (h : ∀ (a : Automaton Nat) (t : Table), Table.plan a (r.limit s) = .ok t →
      ∀ summary store', Table.compile a (r.limit s) store = (.ok summary, store') →
        k (summary, store') = l t) :
    compileInto host s r store >>= k = table host s r >>= l := by
  rw [compileInto, table, bind_assoc, bind_assoc]
  refine bind_congr fun a => ?_
  cases hplan : Table.plan a (r.limit s) with
  | error e =>
    rw [Table.compile_of_unplanned layout hplan]
    exact (throw_bind _ _).trans (throw_bind _ _).symm
  | ok t =>
    have hcompile := Table.compile_of_planned layout hplan
    rw [hcompile]
    simp only [pure_bind]
    exact h a t hplan _ _ hcompile

/-- Compiling into an image is planning a table and writing the image of its entries. -/
theorem compile_image_eq (host : Host m) (s : Settings) (r : SourceRequest) (path : String) :
    compile host s r (.image path) = (do
      let t ← table host s.compile r
      asking (.write path) (host.writeFile path (Image.ofEntries t.entries).toBytes)
      return ⟨t.size, []⟩ : Run m WriteSummary) := by
  refine compileInto_bind host s.compile r rfl fun a t planned summary buffer compiled => ?_
  rw [Table.compile_imageBuffer planned] at compiled
  obtain ⟨rfl, rfl⟩ : summary = ⟨t.size, []⟩ ∧ buffer = t.collected := by
    simpa [eq_comm] using compiled
  simp only [Table.toImage_collected planned]

end Program

/-! ## In a folder -/

namespace Folder

open Program

variable {α β : Type} {f g : Folder}

/-- What a part of a run ends with in the folder, and the folder it leaves. -/
def run (f : Folder) (x : Run (StateM Folder) α) : Except Failure α × Folder := x.run.run f

theorem run_bind_of_ok {x : Run (StateM Folder) α} {a : α} (h : f.run x = (.ok a, g))
    (k : α → Run (StateM Folder) β) : f.run (x >>= k) = g.run (k a) := by
  unfold run at h ⊢
  rw [ExceptT.run_bind, StateT.run_bind, h]
  rfl

theorem run_bind_of_error {x : Run (StateM Folder) α} {e : Failure} (h : f.run x = (.error e, g))
    (k : α → Run (StateM Folder) β) : f.run (x >>= k) = (.error e, g) := by
  unfold run at h ⊢
  rw [ExceptT.run_bind, StateT.run_bind, h]
  rfl

theorem run_pure (f : Folder) (a : α) : f.run (pure a) = (.ok a, f) := rfl

theorem run_asking {ε : Type} (f : Folder) (refused : ε → Failure)
    (answer : StateM Folder (Except ε α)) :
    f.run (asking refused answer) = ((answer.run f).1.mapError refused, (answer.run f).2) := rfl

/-- The run changes no file. -/
def KeepsFiles (x : Run (StateM Folder) α) : Prop := ∀ f : Folder, (f.run x).2.files = f.files

theorem KeepsFiles.bind {x : Run (StateM Folder) α} {k : α → Run (StateM Folder) β}
    (hx : KeepsFiles x) (hk : ∀ a, KeepsFiles (k a)) : KeepsFiles (x >>= k) := by
  intro f
  have hfiles := hx f
  cases hrun : f.run x with
  | mk result g =>
    rw [hrun] at hfiles
    cases result with
    | error e => rw [run_bind_of_error hrun, hfiles]
    | ok a => rw [run_bind_of_ok hrun, hk a g, hfiles]

theorem keepsFiles_automaton (s : CompileSettings) (r : SourceRequest) :
    KeepsFiles (automaton Folder.host s r) := by
  have hpattern : ∀ text, KeepsFiles (automaton.ofPattern (m := StateM Folder) s r text) := by
    intro text f
    rw [automaton.ofPattern]
    split <;> rfl
  rw [automaton]
  cases r.origin with
  | settings => exact hpattern s.pattern
  | pattern text => exact hpattern text
  | description path =>
    refine KeepsFiles.bind (fun f => ?_) fun text => ?_
    · rw [run_asking, Host.readSource]
      split <;> rfl
    · intro f
      split <;> rfl

/-! ## The table of a source -/

section Source

variable {s : Settings} {r : SourceRequest} {path : String} {f' : Folder}

theorem run_table_of_unloaded {e : Failure}
    (h : f.run (automaton Folder.host s.compile r) = (.error e, f')) :
    f.run (table Folder.host s.compile r) = (.error e, f') := run_bind_of_error h _

theorem run_table_of_loaded {a : Automaton Nat}
    (h : f.run (automaton Folder.host s.compile r) = (.ok a, f')) :
    f.run (table Folder.host s.compile r) =
      ((Table.plan a (r.limit s.compile)).mapError .compile, f') := by
  rw [table, run_bind_of_ok h]
  cases Table.plan a (r.limit s.compile) <;> rfl

theorem run_compile_image_of_error {e : Failure}
    (h : f.run (table Folder.host s.compile r) = (.error e, f')) (strict : Bool) :
    f.run (command Folder.host s (.compile r (.image path) strict)) = (.error e, f') := by
  rw [command, compile_image_eq]
  exact run_bind_of_error (run_bind_of_error h _) _

theorem run_writeFile (f : Folder) (path : String) (bytes : Bytes) :
    f.run (asking (.write path) (Folder.host.writeFile path bytes)) =
      match f.write path bytes with
      | .error message => (.error (.write path message), f)
      | .ok g => (.ok (), g) := by
  have hanswer : (Folder.host.writeFile path bytes).run f =
      match f.write path bytes with
      | .error message => (.error message, f)
      | .ok g => (.ok (), g) := by
    simp only [host, StateT.run_bind, StateT.run_get, pure_bind]
    cases f.write path bytes <;> rfl
  rw [run_asking, hanswer]
  cases f.write path bytes <;> rfl

theorem run_compile_image_of_ok {t : Table}
    (h : f.run (table Folder.host s.compile r) = (.ok t, f')) (path : String) (strict : Bool) :
    f.run (command Folder.host s (.compile r (.image path) strict)) =
      match f'.write path (Image.ofEntries t.entries).toBytes with
      | .error message => (.error (.write path message), f')
      | .ok g => (.ok { output := "attempted=" ++ t.size.repr ++ " failed=0\n" }, g) := by
  have hwrite := run_writeFile f' path (Image.ofEntries t.entries).toBytes
  rw [command, compile_image_eq, bind_assoc, run_bind_of_ok h, bind_assoc]
  cases hresult : f'.write path (Image.ofEntries t.entries).toBytes with
  | error message =>
    rw [hresult] at hwrite
    exact run_bind_of_error hwrite _
  | ok g =>
    rw [hresult] at hwrite
    rw [run_bind_of_ok hwrite, pure_bind, run_pure, Report.of_complete]

/-- A listing is colored on demand only, for a folder is no terminal. -/
theorem run_colored (f : Folder) (color : ColorChoice) :
    f.run (colored Folder.host color) = (.ok (decide (color = .always)), f) := by
  cases color <;> rfl

theorem run_dump_source {t : Table} (h : f.run (table Folder.host s.compile r) = (.ok t, f'))
    (color : ColorChoice) :
    f.run (command Folder.host s (.dump r none color)) =
      (.ok { output := dump (.ofFlag (decide (color = .always))) t.entries }, f') := by
  rw [command, run_bind_of_ok h, pure_bind, run_bind_of_ok (run_colored f' color), run_pure]

theorem run_dump_image {entries : List Entry}
    (h : g.run (imageEntries Folder.host path) = (.ok entries, g)) (color : ColorChoice) :
    g.run (command Folder.host s (.dump r (some path) color)) =
      (.ok { output := dump (.ofFlag (decide (color = .always))) entries }, g) := by
  rw [command, run_bind_of_ok h, run_bind_of_ok (run_colored g color), run_pure]

theorem run_imageEntries {image : Image} (hread : g.read path = .ok image.toBytes)
    (himage : Image.ofBytes image.toBytes = .ok image) :
    g.run (imageEntries Folder.host path) = (.ok image.entries, g) := by
  have hasking : g.run (asking (fun e => .image path (.io e)) (Folder.host.readFile path)) =
      (.ok image.toBytes, g) := by
    have hanswer : (Folder.host.readFile path).run g = (.ok image.toBytes, g) := by
      rw [← hread]
      rfl
    rw [run_asking, hanswer]
    rfl
  rw [imageEntries, run_bind_of_ok hasking, himage]
  rfl

end Source

/-- Compiling a source into an image file and listing that file is listing the source. The source is
loaded and its table planned, which changes no file; an error of either ends the command. Then the
buffer takes every entry and has an image, that of the table: the entries in key order. If this
image cannot be written, the folder stays as it is. If it can be, the file holds the bytes of the
image, the command reports as many writes as the table has entries and no failure, and the file is
read and listed as the table is, in any colors. -/
theorem dump_compiled_image (f : Folder) (s : Settings) (r : SourceRequest) (path : String) :
    let loaded := f.run (automaton Folder.host s.compile r)
    let compiled := fun strict => f.run (command Folder.host s (.compile r (.image path) strict))
    loaded.2.files = f.files ∧
    (∀ e, loaded.1 = .error e → ∀ strict, compiled strict = (.error e, loaded.2)) ∧
    ∀ a, loaded.1 = .ok a →
      (∀ e, Table.plan a (r.limit s.compile) = .error e →
        ∀ strict, compiled strict = (.error (.compile e), loaded.2)) ∧
      ∀ t, Table.plan a (r.limit s.compile) = .ok t →
        let image := Image.ofEntries t.entries
        (∃ buffer,
          Table.compile a (r.limit s.compile) ImageBuffer.new = (.ok ⟨t.size, []⟩, buffer) ∧
            buffer.size = t.size ∧ buffer.toImage = .ok image) ∧
        image.entries.Perm t.entries ∧
        image.entries.Pairwise (fun d e => d.key.rank < e.key.rank) ∧
        (∀ message, loaded.2.write path image.toBytes = .error message →
          ∀ strict, compiled strict = (.error (.write path message), loaded.2)) ∧
        ∀ g, loaded.2.write path image.toBytes = .ok g →
          (∀ strict, compiled strict =
            (.ok { output := "attempted=" ++ t.size.repr ++ " failed=0\n" }, g)) ∧
          g.read path = .ok image.toBytes ∧
          g.run (imageEntries Folder.host path) = (.ok image.entries, g) ∧
          (∀ p, dump p image.entries = dump p t.entries) ∧
          ∀ s' r' color, (g.run (command Folder.host s' (.dump r' (some path) color))).1 =
            (f.run (command Folder.host s (.dump r none color))).1 := by
  intro loaded compiled
  have hloaded : ∀ {result}, loaded.1 = result →
      f.run (automaton Folder.host s.compile r) = (result, loaded.2) := fun h => Prod.ext h rfl
  refine ⟨keepsFiles_automaton s.compile r f, fun e he strict => ?_, fun a ha => ?_⟩
  · exact run_compile_image_of_error (run_table_of_unloaded (hloaded he)) strict
  have htable := run_table_of_loaded (hloaded ha)
  refine ⟨fun e hplan strict => ?_, fun t hplan => ?_⟩
  · rw [hplan] at htable
    exact run_compile_image_of_error htable strict
  rw [hplan] at htable
  intro image
  have hcollected : Table.compile a (r.limit s.compile) ImageBuffer.new =
      (.ok ⟨t.size, []⟩, t.collected) := Table.compile_imageBuffer hplan
  have hperm : image.entries.Perm t.entries := Entry.perm_sortByKey t.entries
  have hordered : image.entries.Pairwise fun d e => d.key.rank < e.key.rank :=
    Entry.pairwise_lt_sortByKey (Table.distinct_of_plan hplan)
  have hlisting : ∀ p, dump p image.entries = dump p t.entries := fun p =>
    dump_sortByKey p t.entries
  have hcompiled := run_compile_image_of_ok htable path
  refine ⟨⟨t.collected, hcollected, Table.size_collected hplan, Table.toImage_collected hplan⟩,
    hperm, hordered, fun message hwrite strict => ?_, fun g hwrite => ?_⟩
  · rw [hwrite] at hcompiled
    exact hcompiled strict
  · rw [hwrite] at hcompiled
    have hread : g.read path = .ok image.toBytes := read_of_write hwrite
    have hentries := run_imageEntries hread (Table.ofBytes_image_of_plan hplan)
    refine ⟨hcompiled, hread, hentries, hlisting, fun s' r' color => ?_⟩
    rw [run_dump_image hentries, run_dump_source htable, hlisting]

/-- A description from the standard input, with the transitions of its state out of order. -/
theorem dump_compiled_image_of_input :
    let text := "\x7b\"start\":\"A\",\"states\":[\x7b\"name\":\"A\",\"transitions\":" ++
      "[[\"y\",\"A\"],[\"x\",\"A\"]]\x7d]\x7d"
    let late : Entry := ⟨⟨0, 121, 0⟩, ⟨0, 0⟩⟩
    let early : Entry := ⟨⟨0, 120, 0⟩, ⟨0, 0⟩⟩
    let f : Folder := { input := text.toUTF8.data.toList }
    let g : Folder := { files := [("t", (Image.ofEntries [late, early]).toBytes)] }
    let r : SourceRequest := { origin := .description "-", maxStates := some 10 }
    f.run (command Folder.host {} (.compile r (.image "t") true)) =
        (.ok { output := "attempted=2 failed=0\n" }, g) ∧
      (g.run (command Folder.host {} (.dump {} (some "t") .always))).1 =
        (f.run (command Folder.host {} (.dump r none .always))).1 := by
  have hplace : Folder.place {} "t" = .vacant "t" := by cbv
  have hplan : Table.plan (Arena.mk #[⟨some "A", false, [(121, 0), (120, 0)]⟩] 0).toAutomaton 10 =
      .ok ⟨[⟨⟨0, 121, 0⟩, ⟨0, 0⟩⟩, ⟨⟨0, 120, 0⟩, ⟨0, 0⟩⟩], 1⟩ := by
    cbv
  have houtput : "attempted=" ++ Nat.repr 2 ++ " failed=0\n" = "attempted=2 failed=0\n" := by
    decide
  intro text late early f g r
  have harena : Source.arenaOfText text = .ok ⟨#[⟨some "A", false, [(121, 0), (120, 0)]⟩], 0⟩ := by
    simp only [text]
    cbv
  have hread : f.run (asking (.read "-") (Folder.host.readSource "-")) = (.ok text, {}) := by
    have hdecode : Host.decode f.input = .ok text := Host.decode_toUTF8 text
    have hanswer : (Folder.host.readSource "-").run f = (.ok text, {}) := by
      rw [← hdecode]
      rfl
    rw [run_asking, hanswer]
    rfl
  have hloaded : f.run (automaton Folder.host {} r) =
      (.ok (Arena.mk #[⟨some "A", false, [(121, 0), (120, 0)]⟩] 0).toAutomaton, {}) := by
    rw [automaton]
    simp only [r]
    rw [run_bind_of_ok hread, harena]
    rfl
  have hwrite : Folder.write {} "t" (Image.ofEntries [late, early]).toBytes = .ok g := by
    rw [write, hplace]
    rfl
  obtain ⟨-, -, hcompiled⟩ := dump_compiled_image f {} r "t"
  rw [hloaded] at hcompiled
  obtain ⟨-, hplanned⟩ := hcompiled _ rfl
  obtain ⟨-, -, -, -, hwritten⟩ := hplanned _ hplan
  obtain ⟨hreport, -, -, -, hdump⟩ := hwritten g hwrite
  refine ⟨?_, hdump {} {} .always⟩
  rw [← houtput]
  exact hreport true

end Folder

end TransitionMap
