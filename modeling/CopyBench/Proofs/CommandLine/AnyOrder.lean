import CopyBench.CommandLine.Scan
import CopyBench.Proofs.Buffer.Contents
import CopyBench.Proofs.CommandLine.Choice
import Mathlib.Data.List.TakeWhile
/-!
# A choice is understood in any order

The words of a choice are understood as that choice, in whatever order they stand. Between two words the
reading has read a choice, of what was given so far, and the next word adds what it gives to that choice and
does nothing else. A word that gives a setting a value that it does not have ends the reading wherever it
stands.
-/

namespace CopyBench.CommandLine

open CopyBench.Action

/-! ## One word -/

namespace Scan

variable {scan : Scan} {chars : List Char}

/-- What comes before an equals sign is skipped in search of it. -/
theorem skipped (plain : '=' ∉ chars) : ∀ c ∈ chars, decide (c ≠ '=') = true :=
  fun _ mem => decide_eq_true (ne_of_mem_of_not_mem mem plain)

theorem splitValue_plain (plain : '=' ∉ chars) : splitValue chars = (String.ofList chars, none) := by
  rw [splitValue, List.dropWhile_eq_nil_iff.2 (skipped plain)]

/-- A text is split at its first equals sign, whatever comes after. -/
theorem splitValue_append (plain : '=' ∉ chars) (value : List Char) :
    splitValue (chars ++ '=' :: value) = (String.ofList chars, some (String.ofList value)) := by
  rw [splitValue, List.dropWhile_append_of_pos (skipped plain), List.takeWhile_append_of_pos (skipped plain)]
  simp

theorem settle_of_none (settled : scan.pending = none) : scan.settle = .ok scan := by
  rw [settle, settled]

section Between

variable (between : scan.trailing = false)
include between

/-- A word that begins with two dashes and goes on is read as an option. -/
theorem word_dashes {text : String} (dashes : text.toList = '-' :: '-' :: chars) (more : chars ≠ []) :
    scan.word text = scan.option (splitValue chars).1 (splitValue chars).2 := by
  obtain ⟨c, rest, rfl⟩ := List.exists_cons_of_ne_nil more
  rw [word, between, if_neg Bool.false_ne_true, dashes]
  rfl

theorem word_name (named : Named) : scan.word ("--" ++ named.name) = scan.option named.name none := by
  obtain ⟨some, plain⟩ := named.name_plain
  have dashes : ("--" ++ named.name).toList = '-' :: '-' :: named.name.toList := by simp
  rw [word_dashes between dashes some, splitValue_plain plain, String.ofList_toList]

theorem word_value (named : Named) (text : String) :
    scan.word ("--" ++ named.name ++ "=" ++ text) = scan.option named.name (some text) := by
  obtain ⟨some, plain⟩ := named.name_plain
  have dashes : ("--" ++ named.name ++ "=" ++ text).toList =
      '-' :: '-' :: (named.name.toList ++ '=' :: text.toList) := by simp
  rw [word_dashes between dashes (List.append_ne_nil_of_left_ne_nil some _), splitValue_append plain,
    String.ofList_toList, String.ofList_toList]

variable (settled : scan.pending = none)
include settled

/-- The word of a flag is read as the flag. -/
theorem word_flag (f : Flag) : scan.word f.written = scan.give f := by
  refine (word_name between (.flag f)).trans ?_
  unfold option
  rw [Named.find?_name, settle_of_none settled]
  rfl

/-- The word of a setting is read as the setting with the text after its equals sign, whatever that is. -/
theorem word_setting (s : Setting) (text : String) : scan.word (s.written text) = scan.accept s text := by
  refine (word_value between (.setting s) text).trans ?_
  unfold option
  rw [Named.find?_name, settle_of_none settled]
  rfl

end Between

end Scan

/-- How a setting refuses a text. -/
def Setting.refusal (s : Setting) (text : String) : ValueFault → Stop
  | .notAllowed => .invalidValue s text
  | .malformed => .valueValidation s text

/-! ## Words of a choice -/

namespace Choice

variable {c : Choice} {given : List Named} {said : List Given} {words : List String}

/-- Where the reading stands when it has read a choice, of the options that were given. -/
def scan (c : Choice) (given : List Named) : Scan := { options := c.options, given }

theorem scan_silent : silent.scan [] = {} := rfl

/-- The word of an option that was not given before adds it to the choice. -/
theorem word_scan {g : Given} (fresh : g.named ∉ given) :
    (c.scan given).word g.word = .ok ((c.say g).scan (g.named :: given)) := by
  rw [scan, scan, options_say]
  cases g with
  | flag f => exact (Scan.word_flag rfl rfl f).trans (if_neg fresh)
  | setting s v =>
    refine (Scan.word_setting rfl rfl s _).trans ((if_neg fresh).trans ?_)
    rw [Setting.set_text]
    rfl

/-- Options that differ are added to the choice one after the other. -/
theorem words_scan (distinct : (said.map Given.named).Nodup) (fresh : ∀ g ∈ said, g.named ∉ given)
    (rest : List String) : (c.scan given).words (said.map Given.word ++ rest) =
      ((said.foldl say c).scan ((said.map Given.named).reverse ++ given)).words rest := by
  induction said generalizing c given with
  | nil => rfl
  | cons g said ih =>
    obtain ⟨new, distinct⟩ := List.nodup_cons.1 distinct
    have later : ∀ g' ∈ said, g'.named ∉ g.named :: given := fun g' mem =>
      List.not_mem_cons_of_ne_of_not_mem (fun same => new (same ▸ List.mem_map_of_mem mem))
        (fresh g' (List.mem_cons_of_mem g mem))
    rw [List.map_cons, List.cons_append, Scan.words, word_scan (fresh g List.mem_cons_self)]
    refine (ih distinct later).trans ?_
    rw [List.foldl_cons, List.map_cons, List.reverse_cons, List.append_assoc, List.singleton_append]

theorem parse_words (order : words.Perm c.words) : parse words = .ok c.options := by
  obtain ⟨said, rfl, perm⟩ := exists_said order
  have read := words_scan (c := silent) (nodup_said perm) (fun _ _ => List.not_mem_nil) []
  rw [List.append_nil, foldl_say perm] at read
  rw [parse, ← scan_silent, read]
  rfl

section Refused

variable {s : Setting} {text : String} {fault : ValueFault} (refused : ∀ o, s.set o text = .error fault)
include refused

theorem word_refused (fresh : .setting s ∉ given) :
    (c.scan given).word (s.written text) = .error (s.refusal text fault) := by
  refine (Scan.word_setting rfl rfl s text).trans ((if_neg fresh).trans ?_)
  rw [refused]
  cases fault <;> rfl

/-- A value that a setting does not have is refused, wherever it stands among the words of a choice. -/
theorem parse_refused (order : words.Perm (s.written text :: (c.without s).words)) :
    parse words = .error (s.refusal text fault) := by
  obtain ⟨before, after, rfl⟩ := List.append_of_mem (order.mem_iff.2 List.mem_cons_self)
  obtain ⟨said, split, perm⟩ := exists_said (List.perm_middle.symm.trans order).cons_inv
  obtain ⟨sooner, later, rfl, rfl, -⟩ := List.append_eq_map_iff.1 split
  have distinct := nodup_said perm
  rw [List.map_append] at distinct
  -- What stands before it is read, and gives the setting no value.
  have read := words_scan (c := silent) distinct.of_append_left (fun _ _ => List.not_mem_nil) (s.written text :: after)
  have fresh : Named.setting s ∉ (sooner.map Given.named).reverse ++ [] := by
    rw [List.append_nil, List.mem_reverse]
    intro mem
    obtain ⟨g, mem, named⟩ := List.mem_map.1 mem
    have gives := mem_givens.1 (perm.mem_iff.1 (List.mem_append_left later mem))
    rw [named, given?_without] at gives
    cases gives
  rw [parse, ← scan_silent, read, Scan.words, word_refused refused fresh]
  rfl

end Refused

theorem configuration_options (c : Choice) : c.options.configuration =
    { createsQueue := true
      requiresCreation := !c.flags .allowCreationFail
      profiling := false
      validation := c.flags .validation
      debugLayer := c.flags .debugLayer
      engine := if c.flags .forceBlitter then .bcs else (c.values .engine).getD .unknown
      deviceIndex := (c.values .deviceIndex).getD 0 } := by
  rw [Options.configuration, options]
  dsimp only
  cases c.flags .forceBlitter <;> cases c.flags .allowCreationFail <;> rfl

end Choice

/-! ## Command lines -/

/-- A command line is understood as a choice. -/
structure Understood (c : Choice) (words : List String) : Prop where
  options : parse words = .ok c.options
  /-- The blitter, where it is forced, goes before the engine. -/
  configuration : c.options.configuration =
    { createsQueue := true
      requiresCreation := !c.flags .allowCreationFail
      profiling := false
      validation := c.flags .validation
      debugLayer := c.flags .debugLayer
      engine := if c.flags .forceBlitter then .bcs else (c.values .engine).getD .unknown
      deviceIndex := (c.values .deviceIndex).getD 0 }
  /-- The contents are those that the name means, and nothing is done but that an unknown name is told of. -/
  arguments : ∀ {σ : Type} [Console σ] (s : σ), c.options.copyArguments.Ends s fun r after =>
    (∃ contents, r = .ok
        { size := ((c.values .size).map Subtype.val).getD 268435456
          iterations := ((c.values .iterations).getD 10).toNat
          contents
          useEvents := c.flags .useEvents } ∧
      Contents.Meant ((c.values .contents).getD "zeros") ((c.values .seed).getD 0x5EED) contents) ∧
    Contents.Told ((c.values .contents).getD "zeros") s after

/-- The words of a choice are understood as that choice, in whatever order they stand. If among them stands
a size of zero, in place of any other, they are refused, wherever it stands. -/
theorem understood_in_any_order (c : Choice) :
    (∀ words : List String, words.Perm c.words → Understood c words) ∧
      ∀ words : List String, words.Perm (Setting.size.written "0" :: (c.without .size).words) →
        parse words = .error (.valueValidation .size "0") := by
  refine ⟨fun words order => ?_, fun words order => Choice.parse_refused Setting.set_size_zero order⟩
  exact
    { options := Choice.parse_words order
      configuration := c.configuration_options
      arguments := fun s => by
        rw [Options.copyArguments, ends_bind]
        refine (Contents.ends_parse _ _ s).mono fun r after h => ?_
        obtain ⟨⟨contents, rfl, meant⟩, told⟩ := h
        exact ⟨⟨contents, rfl, meant⟩, told⟩ }

/-- The blitter is forced before an engine is chosen, a value has dashes and an equals sign, and contents are
named in letters of both cases. -/
theorem understood_blitterFirst :
    let c := ((((Choice.silent.say (.setting .engine .rcs)).say (.flag .forceBlitter)).say
      (.setting .test "--a=b")).say (.setting .contents "RanDom")).say (.setting .seed 9)
    let words := ["--seed=9", "--force-blitter", "--contents=RanDom", "--engine=rcs", "--test=--a=b"]
    let refused := ["--seed=9", "--size=0", "--force-blitter", "--contents=RanDom", "--engine=rcs", "--test=--a=b"]
    (words.Perm c.words ∧ refused.Perm (Setting.size.written "0" :: (c.without .size).words)) ∧
      parse words = .ok
        { test := some "--a=b", engine := .rcs, forceBlitter := true, contents := "RanDom", seed := 9 } ∧
      Understood c words ∧ parse refused = .error (.valueValidation .size "0") := by
  intro c words refused
  have order : words.Perm c.words := by decide
  have order' : refused.Perm (Setting.size.written "0" :: (c.without .size).words) := by decide
  have understood := (understood_in_any_order c).1 words order
  exact ⟨⟨order, order'⟩, understood.options, understood, (understood_in_any_order c).2 refused order'⟩

end CopyBench.CommandLine
