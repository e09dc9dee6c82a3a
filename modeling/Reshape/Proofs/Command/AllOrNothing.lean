/-
# Runs of `apply` are all or nothing

A run of `apply` reaches its output through stages, and each of them works on what the stages
before it have made.  A run that `Completes` with an output has passed all of them, and the
output is what was checked last.  For any other run `FailsWith` names the exit code of the first
stage that does not pass.  Both are said of the sources, of the engine and of the libraries alone,
without the run; they are what its result can be (`result_mapped_eq_ok`, `exists_result_mapped`).
Only behind the last stage is the output delivered (`Delivers`): as its compact text or, if the
request says so, over several lines, and in either case as a text that reads back as the output.

What the texts of the sources say, and what a JSON Schema finds wrong with a value, is up to the
libraries that a run is given.

Main statement: `outcome_all_or_nothing`.
-/
import Reshape.Command.Apply
import Reshape.Proofs.FileSystem
import Reshape.Proofs.Json.Printing

namespace Reshape

/-! ## 1. Sources -/

namespace Source

variable {readers : Readers} {fs : FileSystem} {source : String}

/-- A source is a file with a text. -/
structure HasText (fs : FileSystem) (source text : String) : Prop where
  file : isUrl source = false
  reads : fs.readText source = .ok text

/-- A source writes a value, in the format that its name decides. -/
def Loads (readers : Readers) (fs : FileSystem) (source : String) (v : Json) : Prop :=
  ∃ text, HasText fs source text ∧ read (.ofName source) text readers = .ok v

theorem Loads.of_json {text : String} {v : Json} (ht : HasText fs source text)
    (hname : Format.ofName source = .json) (hv : readers.json text = .ok v) :
    Loads readers fs source v := by
  refine ⟨text, ht, ?_⟩
  rw [hname]
  exact Result.mapError_eq_ok.mpr hv

/-- Why a source cannot be loaded, with the exit code for it. -/
inductive Faulty (readers : Readers) (fs : FileSystem) (source : String) : Nat → Prop
  | missing (h : isUrl source = true ∨ fs.contains source = false) : Faulty readers fs source 3
  | unreadable {fault : FileFault} (hu : isUrl source = false)
      (hc : fs.contains source = true) (h : fs.readText source = .error fault) :
      Faulty readers fs source 3
  | unparsable {text : String} {e : LoadError} (ht : HasText fs source text)
      (h : read (.ofName source) text readers = .error e) : Faulty readers fs source 2

theorem exitCode_of_read {format : Format} {text : String} {e : LoadError}
    (h : read format text readers = .error e) : e.exitCode = 2 := by
  cases format with
  | json =>
    obtain ⟨e', -, rfl⟩ := Result.mapError_eq_error.mp h
    rfl
  | yaml =>
    obtain ⟨e', -, rfl⟩ := Result.mapError_eq_error.mp h
    rfl

theorem HasText.load {text : String} (h : HasText fs source text) :
    load fs source readers = read (.ofName source) text readers := by
  have hc : fs.contains source = true := FileSystem.contains_of_readText h.reads
  rw [Source.load, h.file, loadFile, hc, h.reads]
  rfl

/-- A source without a text cannot be loaded. -/
theorem Faulty.of_no_text (h : ∀ text, ¬HasText fs source text) :
    ∃ e, load fs source readers = .error e ∧ e.exitCode = 3 ∧ Faulty readers fs source 3 := by
  cases hu : isUrl source with
  | true => exact ⟨.notFound source, by rw [load, hu]; rfl, rfl, .missing (.inl hu)⟩
  | false =>
    cases hc : fs.contains source with
    | false =>
      exact ⟨.notFound source, by rw [load, hu, loadFile, hc]; rfl, rfl, .missing (.inr hc)⟩
    | true =>
      cases hr : fs.readText source with
      | ok text => exact absurd ⟨hu, hr⟩ (h text)
      | error fault =>
        exact ⟨.unreadable source fault, by rw [load, hu, loadFile, hc, hr]; rfl, rfl,
          .unreadable hu hc hr⟩

theorem load_eq_ok {v : Json} : load fs source readers = .ok v ↔ Loads readers fs source v := by
  constructor
  · intro h
    by_cases ht : ∃ text, HasText fs source text
    · obtain ⟨text, ht⟩ := ht
      exact ⟨text, ht, ht.load ▸ h⟩
    · obtain ⟨e, he, -⟩ := Faulty.of_no_text fun text h => ht ⟨text, h⟩
      rw [he] at h
      cases h
  · rintro ⟨text, ht, h⟩
    rw [ht.load, h]

theorem exists_load_error {code : Nat} :
    (∃ e, load fs source readers = .error e ∧ e.exitCode = code) ↔
      Faulty readers fs source code := by
  constructor
  · rintro ⟨e, h, rfl⟩
    -- Only a text can be unparsable; without one the file itself is at fault.
    by_cases ht : ∃ text, HasText fs source text
    · obtain ⟨text, ht⟩ := ht
      rw [ht.load] at h
      rw [exitCode_of_read h]
      exact .unparsable ht h
    · obtain ⟨e', he', hcode, hfaulty⟩ := Faulty.of_no_text fun text h => ht ⟨text, h⟩
      rw [he'] at h
      cases h
      rw [hcode]
      exact hfaulty
  · intro h
    cases h with
    | missing h =>
      have ht : ∀ text, ¬HasText fs source text := by
        rintro text ⟨hu, hr⟩
        rcases h with h | h
        · rw [hu] at h
          cases h
        · rw [FileSystem.contains_of_readText hr] at h
          cases h
      obtain ⟨e, he, hcode, -⟩ := Faulty.of_no_text ht
      exact ⟨e, he, hcode⟩
    | unreadable hu hc h =>
      have ht : ∀ text, ¬HasText fs source text := by
        rintro text ⟨-, hr⟩
        rw [hr] at h
        cases h
      obtain ⟨e, he, hcode, -⟩ := Faulty.of_no_text ht
      exact ⟨e, he, hcode⟩
    | unparsable ht h => exact ⟨_, ht.load.trans h, exitCode_of_read h⟩

end Source

/-! ## 2. Checks -/

section

variable {validators : JsonSchema.Validators} {v schema : Json}

theorem validateOutput_eq_ok : validateOutput v schema validators = .ok () ↔
    ∃ violations, validators schema = .ok violations ∧ violations v = [] := by
  unfold validateOutput
  cases hs : validators schema with
  | error fault => simp
  | ok violations => cases hv : violations v <;> simp [hv]

theorem validateOutput_eq_invalidSchema {fault : JsonSchema.Fault} :
    validateOutput v schema validators = .error (.invalidSchema fault) ↔
      validators schema = .error fault := by
  unfold validateOutput
  cases hs : validators schema with
  | error fault' => simp
  | ok violations => cases hv : violations v <;> simp [hv]

theorem exists_validateOutput_eq_invalid :
    (∃ found, validateOutput v schema validators = .error (.invalid found)) ↔
      ∃ violations, validators schema = .ok violations ∧ violations v ≠ [] := by
  unfold validateOutput
  cases hs : validators schema with
  | error fault => simp
  | ok violations => cases hv : violations v <;> simp [hv]

end

/-! ## 3. Stages -/

namespace ApplyRequest

open Reporting

variable {L : Libraries} {r : ApplyRequest} {fs : FileSystem}

/-- The mapping document is loaded, and its engine is ready. -/
def Prepares (L : Libraries) (r : ApplyRequest) (fs : FileSystem) (engine : Engine) : Prop :=
  ∃ document, Source.Loads L.toReaders fs r.schema document ∧ Engine.ofJson document {} = .ok engine

/-- The input is loaded behind it, and mapped. -/
def Maps (L : Libraries) (r : ApplyRequest) (fs : FileSystem) (v : Json) : Prop :=
  ∃ engine input, r.Prepares L fs engine ∧ Source.Loads L.toReaders fs r.input input ∧
    (engine.apply input).result = .ok v

/-- The JSON Schema is loaded, if there is one, and finds nothing wrong with a value. -/
def Accepts (L : Libraries) (r : ApplyRequest) (fs : FileSystem) (v : Json) : Prop :=
  ∀ source, r.validate = some source →
    ∃ schema violations, Source.Loads L.toReaders fs source schema ∧
      L.validators schema = .ok violations ∧ violations v = []

/-- Why a value is not accepted, with the exit code for it. -/
inductive Rejects (L : Libraries) (r : ApplyRequest) (fs : FileSystem) (v : Json) : Nat → Prop
  | schema {source : String} {code : Nat} (hs : r.validate = some source)
      (h : Source.Faulty L.toReaders fs source code) : Rejects L r fs v code
  | invalidSchema {source : String} {schema : Json} {fault : JsonSchema.Fault}
      (hs : r.validate = some source) (hl : Source.Loads L.toReaders fs source schema)
      (h : L.validators schema = .error fault) : Rejects L r fs v 2
  | invalid {source : String} {schema : Json} {violations : Json → List JsonSchema.Violation}
      (hs : r.validate = some source) (hl : Source.Loads L.toReaders fs source schema)
      (hc : L.validators schema = .ok violations) (h : violations v ≠ []) : Rejects L r fs v 1

/-- Every stage passes, and the value is the output. -/
structure Completes (L : Libraries) (r : ApplyRequest) (fs : FileSystem) (v : Json) : Prop where
  maps : r.Maps L fs v
  accepts : r.Accepts L fs v

/-- The stages before it pass, and a stage does not; the exit code is that of this stage. -/
inductive FailsWith (L : Libraries) (r : ApplyRequest) (fs : FileSystem) : Nat → Prop
  | mapping {code : Nat} (h : Source.Faulty L.toReaders fs r.schema code) : FailsWith L r fs code
  | engine {document : Json} {e : MappingError} (hd : Source.Loads L.toReaders fs r.schema document)
      (h : Engine.ofJson document {} = .error e) : FailsWith L r fs 2
  | input {engine : Engine} {code : Nat} (hp : r.Prepares L fs engine)
      (h : Source.Faulty L.toReaders fs r.input code) : FailsWith L r fs code
  | run {engine : Engine} {input : Json} {e : MappingError} (hp : r.Prepares L fs engine)
      (hi : Source.Loads L.toReaders fs r.input input)
      (h : (engine.apply input).result = .error e) : FailsWith L r fs 2
  | check {v : Json} {code : Nat} (hm : r.Maps L fs v) (h : r.Rejects L fs v code) :
      FailsWith L r fs code

theorem stage_eq_ok {failure : LoadError → ApplyFailure} {source : String} {v : Json} :
    (stage L fs failure source).result = .ok v ↔ Source.Loads L.toReaders fs source v := by
  rw [← Source.load_eq_ok]
  exact Result.mapError_eq_ok

theorem stage_eq_error {failure : LoadError → ApplyFailure} {source : String}
    {f : ApplyFailure} :
    (stage L fs failure source).result = .error f ↔
      ∃ e, Source.load fs source L.toReaders = .error e ∧ failure e = f :=
  Result.mapError_eq_error

theorem result_check_eq_ok {v : Json} : (r.check L fs v).result = .ok () ↔ r.Accepts L fs v := by
  rw [check]
  cases hs : r.validate with
  | none =>
    constructor
    · rintro - source h
      rw [hs] at h
      cases h
    · intro
      rfl
  | some source =>
    constructor
    · intro h source' hs'
      rw [hs] at hs'
      cases hs'
      obtain ⟨schema, hl, h⟩ := result_bind_eq_ok.mp h
      obtain ⟨violations, hc, hv⟩ := validateOutput_eq_ok.mp (Result.mapError_eq_ok.mp h)
      exact ⟨schema, violations, stage_eq_ok.mp hl, hc, hv⟩
    · intro h
      obtain ⟨schema, violations, hl, hc, hv⟩ := h source hs
      exact result_bind_eq_ok.mpr ⟨schema, stage_eq_ok.mpr hl,
        Result.mapError_eq_ok.mpr (validateOutput_eq_ok.mpr ⟨violations, hc, hv⟩)⟩

theorem exists_result_check {v : Json} {code : Nat} :
    (∃ f, (r.check L fs v).result = .error f ∧ f.exitCode = code) ↔ r.Rejects L fs v code := by
  constructor
  · rintro ⟨f, h, rfl⟩
    rw [check] at h
    cases hs : r.validate with
    | none =>
      rw [hs] at h
      cases h
    | some source =>
      rw [hs] at h
      rcases result_bind_eq_error.mp h with h | ⟨schema, hl, h⟩
      · obtain ⟨e, he, rfl⟩ := stage_eq_error.mp h
        exact .schema hs (Source.exists_load_error.mp ⟨e, he, rfl⟩)
      · obtain ⟨e, he, rfl⟩ := Result.mapError_eq_error.mp h
        have hl := stage_eq_ok.mp hl
        cases e with
        | invalidSchema fault =>
          exact .invalidSchema hs hl (validateOutput_eq_invalidSchema.mp he)
        | invalid found =>
          obtain ⟨violations, hc, hv⟩ := exists_validateOutput_eq_invalid.mp ⟨found, he⟩
          exact .invalid hs hl hc hv
  · intro h
    rw [check]
    cases h with
    | schema hs h =>
      obtain ⟨e, he, rfl⟩ := Source.exists_load_error.mpr h
      rw [hs]
      exact ⟨.outputSchema e, result_bind_eq_error.mpr (.inl (stage_eq_error.mpr ⟨e, he, rfl⟩)),
        rfl⟩
    | invalidSchema hs hl h =>
      rw [hs]
      exact ⟨_, result_bind_eq_error.mpr (.inr ⟨_, stage_eq_ok.mpr hl,
        Result.mapError_eq_error.mpr ⟨_, validateOutput_eq_invalidSchema.mpr h, rfl⟩⟩), rfl⟩
    | invalid hs hl hc h =>
      obtain ⟨found, he⟩ := exists_validateOutput_eq_invalid.mpr ⟨_, hc, h⟩
      rw [hs]
      exact ⟨_, result_bind_eq_error.mpr (.inr ⟨_, stage_eq_ok.mpr hl,
        Result.mapError_eq_error.mpr ⟨_, he, rfl⟩⟩), rfl⟩

/-- What is left of a run when its engine is ready. -/
def behindEngine (L : Libraries) (r : ApplyRequest) (fs : FileSystem) (engine : Engine) :
    Reporting ApplyFailure Json := do
  let input ← stage L fs .input r.input
  let output ← (engine.apply input).mapError .run
  r.check L fs output
  pure output

theorem Prepares.result_mapped {engine : Engine} (h : r.Prepares L fs engine) :
    (r.mapped L fs).result = (r.behindEngine L fs engine).result := by
  obtain ⟨document, hd, he⟩ := h
  have hready : (Reporting.ofExcept ((Engine.ofJson document {}).mapError .engine) :
      Reporting ApplyFailure Engine).result = .ok engine := Result.mapError_eq_ok.mpr he
  rw [mapped, result_bind_of_ok (stage_eq_ok.mpr hd), result_bind_of_ok hready]
  rfl

theorem Maps.result_mapped {v : Json} (h : r.Maps L fs v) :
    (r.mapped L fs).result = (r.check L fs v >>= fun _ => pure v).result := by
  obtain ⟨engine, input, hp, hi, hv⟩ := h
  have hrun : ((engine.apply input).mapError ApplyFailure.run).result = .ok v :=
    Result.mapError_eq_ok.mpr hv
  rw [hp.result_mapped, behindEngine, result_bind_of_ok (stage_eq_ok.mpr hi),
    result_bind_of_ok hrun]

/-- **A run has an output exactly if it completes with it.** -/
theorem result_mapped_eq_ok {v : Json} : (r.mapped L fs).result = .ok v ↔ r.Completes L fs v := by
  constructor
  · intro h
    rw [mapped] at h
    obtain ⟨document, hd, h⟩ := result_bind_eq_ok.mp h
    obtain ⟨engine, he, h⟩ := result_bind_eq_ok.mp h
    obtain ⟨-, -, h⟩ := result_bind_eq_ok.mp h
    obtain ⟨input, hi, h⟩ := result_bind_eq_ok.mp h
    obtain ⟨output, ho, h⟩ := result_bind_eq_ok.mp h
    obtain ⟨⟨⟩, hc, h⟩ := result_bind_eq_ok.mp h
    cases h
    have hp : r.Prepares L fs engine := ⟨document, stage_eq_ok.mp hd, Result.mapError_eq_ok.mp he⟩
    exact ⟨⟨engine, input, hp, stage_eq_ok.mp hi, Result.mapError_eq_ok.mp ho⟩,
      result_check_eq_ok.mp hc⟩
  · rintro ⟨hm, ha⟩
    rw [hm.result_mapped, result_bind_of_ok (result_check_eq_ok.mpr ha)]
    rfl

/-- **A run fails with an exit code exactly if that is the code of the first stage that does not
pass.** -/
theorem exists_result_mapped {code : Nat} :
    (∃ f, (r.mapped L fs).result = .error f ∧ f.exitCode = code) ↔ r.FailsWith L fs code := by
  constructor
  · rintro ⟨f, h, rfl⟩
    -- Stage by stage: either this one fails, or what it made goes into the next.
    rw [mapped] at h
    rcases result_bind_eq_error.mp h with h | ⟨document, hd, h⟩
    · obtain ⟨e, he, rfl⟩ := stage_eq_error.mp h
      exact .mapping (Source.exists_load_error.mp ⟨e, he, rfl⟩)
    have hd := stage_eq_ok.mp hd
    rcases result_bind_eq_error.mp h with h | ⟨engine, he, h⟩
    · obtain ⟨e, he, rfl⟩ := Result.mapError_eq_error.mp h
      exact .engine hd he
    have hp : r.Prepares L fs engine := ⟨document, hd, Result.mapError_eq_ok.mp he⟩
    rcases result_bind_eq_error.mp h with h | ⟨-, -, h⟩
    · cases h
    rcases result_bind_eq_error.mp h with h | ⟨input, hi, h⟩
    · obtain ⟨e, he, rfl⟩ := stage_eq_error.mp h
      exact .input hp (Source.exists_load_error.mp ⟨e, he, rfl⟩)
    have hi := stage_eq_ok.mp hi
    rcases result_bind_eq_error.mp h with h | ⟨output, ho, h⟩
    · obtain ⟨e, he, rfl⟩ := Result.mapError_eq_error.mp h
      exact .run hp hi he
    have hm : r.Maps L fs output := ⟨engine, input, hp, hi, Result.mapError_eq_ok.mp ho⟩
    rcases result_bind_eq_error.mp h with h | ⟨-, -, h⟩
    · exact .check hm (exists_result_check.mp ⟨f, h, rfl⟩)
    · cases h
  · intro h
    cases h with
    | mapping h =>
      obtain ⟨e, he, rfl⟩ := Source.exists_load_error.mpr h
      exact ⟨.mapping e, result_bind_eq_error.mpr (.inl (stage_eq_error.mpr ⟨e, he, rfl⟩)), rfl⟩
    | @engine _ e hd h =>
      refine ⟨.engine e, ?_, rfl⟩
      rw [mapped, result_bind_of_ok (stage_eq_ok.mpr hd)]
      exact result_bind_eq_error.mpr (.inl (Result.mapError_eq_error.mpr ⟨_, h, rfl⟩))
    | input hp h =>
      obtain ⟨e, he, rfl⟩ := Source.exists_load_error.mpr h
      refine ⟨.input e, ?_, rfl⟩
      rw [hp.result_mapped]
      exact result_bind_eq_error.mpr (.inl (stage_eq_error.mpr ⟨e, he, rfl⟩))
    | @run _ _ e hp hi h =>
      refine ⟨.run e, ?_, rfl⟩
      rw [hp.result_mapped, behindEngine, result_bind_of_ok (stage_eq_ok.mpr hi)]
      exact result_bind_eq_error.mpr (.inl (Result.mapError_eq_error.mpr ⟨_, h, rfl⟩))
    | check hm h =>
      obtain ⟨f, hf, rfl⟩ := exists_result_check.mpr h
      refine ⟨f, ?_, rfl⟩
      rw [hm.result_mapped]
      exact result_bind_eq_error.mpr (.inl hf)

/-- A run ends in one of two ways, and in no other. -/
theorem completes_or_failsWith (L : Libraries) (r : ApplyRequest) (fs : FileSystem) :
    (∃ output, (∀ v, r.Completes L fs v ↔ v = output) ∧ ∀ code, ¬r.FailsWith L fs code) ∨
    ∃ code, (∀ c, r.FailsWith L fs c ↔ c = code) ∧ ∀ v, ¬r.Completes L fs v := by
  simp only [← result_mapped_eq_ok, ← exists_result_mapped]
  cases h : (r.mapped L fs).result with
  | ok output => exact .inl ⟨output, fun v => by simp [eq_comm], fun code => by simp⟩
  | error f => exact .inr ⟨f.exitCode, fun c => by simp [eq_comm], fun v => by simp⟩

/-! ## 4. Deliveries -/

/-- How an output is shown: compact, or over several lines if the request says so.  Read again,
the text is the output. -/
structure Shows (r : ApplyRequest) (output : Json) (text : String) : Prop where
  layout : text = if r.pretty then output.pretty else output.compact
  readsBack : Json.Readable Json.maxDepth output → Json.read text = .ok output

/-- How an output is delivered: its text is printed, or stored in the file of the request; if
that file cannot be written, neither. -/
inductive Delivers (r : ApplyRequest) (fs : FileSystem) (output : Json) (o : Outcome) : Prop
  | printed {text : String} (ht : r.Shows output text) (ho : r.output = none)
      (hcode : o.exitCode = 0) (hprinted : o.printed = [text]) (hfiles : o.files = fs)
  | stored {text path : String} (ht : r.Shows output text) (ho : r.output = some path)
      (hcode : o.exitCode = 0) (hprinted : o.printed = [])
      (hwrite : fs.write path text = .ok o.files) (hstores : fs.Stores path text o.files)
  | refused {text path : String} {fault : FileFault} (ht : r.Shows output text)
      (ho : r.output = some path) (hwrite : fs.write path text = .error fault)
      (hcode : o.exitCode = 3) (hprinted : o.printed = []) (hfiles : o.files = fs)

theorem shows_render (output : Json) : r.Shows output (r.render output) := by
  refine ⟨rfl, fun h => ?_⟩
  unfold render
  split
  · exact Json.read_pretty h
  · exact Json.read_compact h

theorem delivers_deliver {log : List String} {output : Json} :
    r.Delivers fs output (r.deliver fs log (r.render output)) := by
  have ht := r.shows_render output
  cases ho : r.output with
  | none =>
    rw [deliver, ho]
    exact .printed ht ho rfl rfl rfl
  | some path =>
    cases hw : fs.write path (r.render output) with
    | ok fs' =>
      rw [deliver, ho]
      dsimp only
      rw [hw]
      exact .stored ht ho rfl rfl hw (FileSystem.stores_of_write hw)
    | error fault =>
      rw [deliver, ho]
      dsimp only
      rw [hw]
      exact .refused ht ho hw rfl rfl rfl

/-- **A run is all or nothing.**  If a stage does not pass, the run ends with the exit code of
the first one, which is not zero, prints nothing and leaves all files as they are.  If all stages
pass, the value that was checked is delivered, as a text of this very value.  Whatever else goes
wrong, a run that does not end with zero prints nothing and changes no file.  Only a run that
completes ends with zero, prints anything or changes a file, and every run completes with one
output or fails with one exit code. -/
theorem outcome_all_or_nothing (L : Libraries) (r : ApplyRequest) (fs : FileSystem)
    (level : LogLevel) :
    (∀ code, r.FailsWith L fs code → (r.outcome L fs level).exitCode = code ∧ code ≠ 0 ∧
      (r.outcome L fs level).printed = [] ∧ (r.outcome L fs level).files = fs) ∧
    (∀ output, r.Completes L fs output → r.Delivers fs output (r.outcome L fs level)) ∧
    ((r.outcome L fs level).exitCode ≠ 0 →
      (r.outcome L fs level).printed = [] ∧ (r.outcome L fs level).files = fs) ∧
    ((r.outcome L fs level).exitCode = 0 ∨ (r.outcome L fs level).printed ≠ [] ∨
      (r.outcome L fs level).files ≠ fs → ∃ output, r.Completes L fs output) ∧
    ((∃ output, (∀ v, r.Completes L fs v ↔ v = output) ∧ ∀ code, ¬r.FailsWith L fs code) ∨
      ∃ code, (∀ c, r.FailsWith L fs c ↔ c = code) ∧ ∀ v, ¬r.Completes L fs v) := by
  have hfails (code : Nat) (h : r.FailsWith L fs code) :
      (r.outcome L fs level).exitCode = code ∧ code ≠ 0 ∧
        (r.outcome L fs level).printed = [] ∧ (r.outcome L fs level).files = fs := by
    obtain ⟨f, hf, rfl⟩ := exists_result_mapped.mpr h
    rw [r.outcome_of_error L fs hf]
    exact ⟨rfl, f.exitCode_ne_zero, rfl, rfl⟩
  refine ⟨hfails, fun output h => ?_, r.outcome_of_exitCode_ne_zero L fs, fun h => ?_,
    completes_or_failsWith L r fs⟩
  · rw [r.outcome_of_ok L fs (result_mapped_eq_ok.mpr h)]
    exact delivers_deliver
  · obtain ⟨output, hcompletes, -⟩ | ⟨code, hcode, -⟩ := completes_or_failsWith L r fs
    · exact ⟨output, (hcompletes output).mpr rfl⟩
    · obtain ⟨hexit, hne, hprinted, hfiles⟩ := hfails code ((hcode code).mpr rfl)
      rcases h with h | h | h
      · exact absurd (hexit.symm.trans h) hne
      · exact absurd hprinted h
      · exact absurd hfiles h

/-! ## 5. Four runs -/

/-- A mapping of one attribute, an input, a text that is cut off, two JSON Schemas that ask for an
attribute each, and the file that is written. -/
def shelf : FileSystem :=
  ⟨.directory
    [("map.json", .file "\x7b\"objects\":[\x7b\"name\":\"id\",\"path\":\"id\"\x7d]\x7d".toUTF8),
    ("in.json", .file "\x7b\"id\":\"7\"\x7d".toUTF8), ("torn.json", .file "\x7b".toUTF8),
    ("id.json", .file "\x7b\"required\":[\"id\"]\x7d".toUTF8),
    ("size.json", .file "\x7b\"required\":[\"size\"]\x7d".toUTF8),
    ("out.json", .file "old".toUTF8)], []⟩

/-- Neither source can be loaded; the mapping document is the first of them. -/
def tornRequest : ApplyRequest := ⟨"absent.json", "torn.json", some "out.json", false, none⟩

/-- The output lacks what its JSON Schema asks for. -/
def unmetRequest : ApplyRequest :=
  ⟨"in.json", "map.json", some "out.json", false, some "size.json"⟩

def storeRequest : ApplyRequest := ⟨"in.json", "map.json", some "out.json", false, some "id.json"⟩

def printRequest : ApplyRequest := ⟨"in.json", "map.json", none, true, some "id.json"⟩

/-- The output of the mapping. -/
def badge : Json := .obj [("id", .str "7")]

/-- The files of the shelf have the texts that they hold. -/
theorem hasText_shelf {name text : String} (hu : Source.isUrl name = false)
    (hlocate : shelf.locate name = .ok [name])
    (hfile : shelf.root.follow? [name] = some (.file text.toUTF8)) :
    Source.HasText shelf name text :=
  ⟨hu, FileSystem.readText_of_file hlocate hfile⟩

theorem loads_shelf {name text : String} {v : Json} (ht : Source.HasText shelf name text)
    (hname : Format.ofName name = .json) (hv : (Json.read text).toOption = some v) :
    Source.Loads .builtin shelf name v :=
  .of_json ht hname (Result.toOption_eq_some.mp hv)

theorem maps_shelf (hs : r.schema = "map.json") (hi : r.input = "in.json") :
    r.Maps .builtin shelf badge := by
  have hmap : Source.Loads .builtin shelf "map.json"
      (.obj [("objects", .arr [.obj [("name", .str "id"), ("path", .str "id")]])]) :=
    loads_shelf (hasText_shelf rfl rfl rfl) rfl (by decide +kernel)
  have hin : Source.Loads .builtin shelf "in.json" badge :=
    loads_shelf (hasText_shelf rfl rfl rfl) rfl (by decide +kernel)
  exact ⟨_, _, ⟨_, hs ▸ hmap, rfl⟩, hi ▸ hin, rfl⟩

theorem accepts_shelf (hv : r.validate = some "id.json") : r.Accepts .builtin shelf badge := by
  have hid : Source.Loads .builtin shelf "id.json" (.obj [("required", .arr [.str "id"])]) :=
    loads_shelf (hasText_shelf rfl rfl rfl) rfl (by decide +kernel)
  intro source hs
  cases hv.symm.trans hs
  obtain ⟨violations, hc, hempty⟩ : ∃ violations,
      JsonSchema.validators (.obj [("required", .arr [.str "id"])]) = .ok violations ∧
        violations badge = [] := ⟨_, rfl, rfl⟩
  exact ⟨_, violations, hid, hc, hempty⟩

theorem rejects_shelf (hv : r.validate = some "size.json") : r.Rejects .builtin shelf badge 1 := by
  have hsize : Source.Loads .builtin shelf "size.json"
      (.obj [("required", .arr [.str "size"])]) :=
    loads_shelf (hasText_shelf rfl rfl rfl) rfl (by decide +kernel)
  obtain ⟨violations, hc, hfound⟩ : ∃ violations,
      JsonSchema.validators (.obj [("required", .arr [.str "size"])]) = .ok violations ∧
        violations badge ≠ [] := ⟨_, rfl, by decide⟩
  exact .invalid hv hsize hc hfound

theorem shelf_all_or_nothing :
    (tornRequest.FailsWith .builtin shelf 2 ∧
      (tornRequest.outcome .builtin shelf .warnings).exitCode = 2 ∧
      (tornRequest.outcome .builtin shelf .warnings).printed = [] ∧
      (tornRequest.outcome .builtin shelf .warnings).files.readText "out.json" = .ok "old") ∧
    (unmetRequest.FailsWith .builtin shelf 1 ∧
      (unmetRequest.outcome .builtin shelf .warnings).exitCode = 1 ∧
      (unmetRequest.outcome .builtin shelf .warnings).printed = [] ∧
      (unmetRequest.outcome .builtin shelf .warnings).files.readText "out.json" = .ok "old") ∧
    (storeRequest.Completes .builtin shelf badge ∧
      (storeRequest.outcome .builtin shelf .warnings).exitCode = 0 ∧
      (storeRequest.outcome .builtin shelf .warnings).printed = [] ∧
      (storeRequest.outcome .builtin shelf .warnings).files.readText "out.json" =
        .ok "\x7b\"id\":\"7\"\x7d") ∧
    (printRequest.Completes .builtin shelf badge ∧
      (printRequest.outcome .builtin shelf .warnings).exitCode = 0 ∧
      (printRequest.outcome .builtin shelf .warnings).printed =
        ["\x7b\n  \"id\": \"7\"\n\x7d"] ∧
      (printRequest.outcome .builtin shelf .warnings).files = shelf ∧
      Json.read "\x7b\n  \"id\": \"7\"\n\x7d" = .ok badge) := by
  have hold : Source.HasText shelf "out.json" "old" := hasText_shelf rfl rfl rfl
  have htorn : Source.HasText shelf "torn.json" "\x7b" := hasText_shelf rfl rfl rfl
  have hfails : tornRequest.FailsWith .builtin shelf 2 := .mapping (.unparsable htorn rfl)
  have hunmet : unmetRequest.FailsWith .builtin shelf 1 :=
    .check (maps_shelf rfl rfl) (rejects_shelf rfl)
  have hstore : storeRequest.Completes .builtin shelf badge :=
    ⟨maps_shelf rfl rfl, accepts_shelf rfl⟩
  have hprint : printRequest.Completes .builtin shelf badge :=
    ⟨maps_shelf rfl rfl, accepts_shelf rfl⟩
  refine ⟨⟨hfails, ?_⟩, ⟨hunmet, ?_⟩, ⟨hstore, ?_⟩, hprint, ?_⟩
  · obtain ⟨hcode, -, hprinted, hfiles⟩ :=
      (outcome_all_or_nothing .builtin tornRequest shelf .warnings).1 2 hfails
    rw [hfiles]
    exact ⟨hcode, hprinted, hold.reads⟩
  · obtain ⟨hcode, -, hprinted, hfiles⟩ :=
      (outcome_all_or_nothing .builtin unmetRequest shelf .warnings).1 1 hunmet
    rw [hfiles]
    exact ⟨hcode, hprinted, hold.reads⟩
  · have hcompact : badge.compact = "\x7b\"id\":\"7\"\x7d" := by decide +kernel
    cases (outcome_all_or_nothing .builtin storeRequest shelf .warnings).2.1 _ hstore with
    | printed ht ho => cases ho
    | stored ht ho hcode hprinted hwrite hstores =>
      cases ho
      rw [ht.layout.trans hcompact] at hstores
      exact ⟨hcode, hprinted, hstores.reads⟩
    | refused ht ho hwrite =>
      cases ho
      rw [ht.layout.trans hcompact] at hwrite
      obtain ⟨fs', hwritten⟩ : ∃ fs', shelf.write "out.json" "\x7b\"id\":\"7\"\x7d" = .ok fs' :=
        ⟨_, rfl⟩
      cases hwritten.symm.trans hwrite
  · have hpretty : badge.pretty = "\x7b\n  \"id\": \"7\"\n\x7d" := by decide +kernel
    have hreadable : Json.Readable (126 + 1) badge :=
      .obj (by simp [Entries.Distinct]) (by simpa using .str "7")
    cases (outcome_all_or_nothing .builtin printRequest shelf .warnings).2.1 _ hprint with
    | printed ht ho hcode hprinted hfiles =>
      have hread := ht.readsBack hreadable
      rw [ht.layout.trans hpretty] at hprinted hread
      exact ⟨hcode, hprinted, hfiles, hread⟩
    | stored ht ho => cases ho
    | refused ht ho => cases ho

end ApplyRequest

end Reshape
