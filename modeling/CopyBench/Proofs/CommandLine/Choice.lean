import CopyBench.CommandLine.Options
import CopyBench.Proofs.CommandLine.Numeral
import Mathlib.Data.List.Nodup
import Mathlib.Data.List.Perm.Basic
import Mathlib.Logic.Function.Basic
/-!
# What a user chooses

A choice says of each flag whether it is set, and of each setting which value it has, if it has one. It comes
down to options, in which all that is left out has its default, and is written with one word for each flag
that is set and for each setting that has a value. To give the same options in another order is to make the
same choice.
-/

namespace CopyBench

/-- The word that asks for an engine. -/
def Engine.word : Engine → String
  | unknown => "unknown"
  | rcs => "rcs"
  | ccs => "ccs"
  | bcs => "bcs"

theorem Engine.ofWord?_word (engine : Engine) : ofWord? engine.word = some engine := by
  cases engine <;> rfl

namespace CommandLine

/-! ## Values of settings -/

namespace Setting

/-- The values of a setting. -/
abbrev Value : Setting → Type
  | test => String
  | deviceIndex => UInt32
  | engine => Engine
  | size => { bytes : UInt64 // 1 ≤ bytes }
  | iterations => UInt32
  | contents => String
  | seed => UInt64
  | logConfig => { path : String // path ≠ "" }

/-- The text of a value, numbers in decimal digits. -/
def text : (s : Setting) → s.Value → String
  | test, name => name
  | deviceIndex, n => toString n
  | engine, e => e.word
  | size, n => toString n.val
  | iterations, n => toString n
  | contents, name => name
  | seed, n => toString n
  | logConfig, path => path.val

/-- The options with a setting at a value. -/
def assign (o : Options) : (s : Setting) → s.Value → Options
  | test, name => { o with test := some name }
  | deviceIndex, n => { o with deviceIndex := n }
  | engine, e => { o with engine := e }
  | size, n => { o with size := n.val }
  | iterations, n => { o with iterations := n }
  | contents, name => { o with contents := name }
  | seed, n => { o with seed := n }
  | logConfig, path => { o with logConfig := path.val }

/-- A value is understood as it is written. -/
theorem set_text (o : Options) (s : Setting) (v : s.Value) : s.set o (s.text v) = .ok (s.assign o v) := by
  cases s with
  | test | contents => rfl
  | deviceIndex | iterations =>
    rw [set, text, word32?_toString]
    rfl
  | engine =>
    rw [set, text, Engine.ofWord?_word]
    rfl
  | size =>
    have least : 1 ≤ v.val.toNat := UInt64.le_iff_toNat_le.1 v.property
    rw [set, text, word64?_toString, if_pos least]
    rfl
  | seed =>
    rw [set, text, word64?_toString, if_pos (Nat.zero_le _)]
    rfl
  | logConfig =>
    rw [set, text, if_neg v.property]
    rfl

/-- No bytes are no size of a copy. -/
theorem set_size_zero (o : Options) : size.set o "0" = .error .malformed := by
  have zero : "0" = toString (0 : UInt64) := by decide
  rw [set, zero, word64?_toString]
  rfl

end Setting

/-! ## Options that are given -/

namespace Named

theorem mem_all (named : Named) : named ∈ all := by
  cases named with
  | flag f => cases f <;> decide
  | setting s => cases s <;> decide
  | help | version => decide

theorem find?_name (named : Named) : find? named.name = some named := by
  cases named with
  | flag f => cases f <;> rfl
  | setting s => cases s <;> rfl
  | help | version => rfl

/-- A name has characters, none of which is an equals sign. -/
theorem name_plain (named : Named) : named.name.toList ≠ [] ∧ '=' ∉ named.name.toList := by
  cases named with
  | flag f => cases f <;> decide
  | setting s => cases s <;> decide
  | help | version => decide

end Named

/-- An option as it is given: a flag, or a setting with a value. -/
inductive Given where
  | flag (flag : Flag)
  | setting (setting : Setting) (value : setting.Value)

/-- The word that sets a flag. -/
def Flag.written (f : Flag) : String := "--" ++ f.name

/-- The word that gives a setting the value of a text. -/
def Setting.written (s : Setting) (text : String) : String := "--" ++ s.name ++ "=" ++ text

namespace Given

/-- Which option it is. -/
def named : Given → Named
  | flag f => .flag f
  | setting s _ => .setting s

/-- The word that gives an option. -/
def word : Given → String
  | flag f => f.written
  | setting s v => s.written (s.text v)

/-- The options with one more given. -/
def apply (o : Options) : Given → Options
  | flag f => f.set o
  | setting s v => s.assign o v

end Given

/-! ## Choices -/

/-- Which flags are set, and which settings have a value. -/
structure Choice where
  flags : Flag → Bool
  values : (s : Setting) → Option s.Value

namespace Choice

/-- The options of a choice. What is left out has its default. -/
def options (c : Choice) : Options where
  info := c.flags .info
  list := c.flags .list
  test := c.values .test
  noop := c.flags .noop
  deviceIndex := (c.values .deviceIndex).getD 0
  validation := c.flags .validation
  debugLayer := c.flags .debugLayer
  engine := (c.values .engine).getD .unknown
  forceBlitter := c.flags .forceBlitter
  size := ((c.values .size).map Subtype.val).getD 268435456
  iterations := (c.values .iterations).getD 10
  contents := (c.values .contents).getD "zeros"
  seed := (c.values .seed).getD 0x5EED
  useEvents := c.flags .useEvents
  allowCreationFail := c.flags .allowCreationFail
  logConfig := ((c.values .logConfig).map Subtype.val).getD "log4rs.yml"

/-- The choice of nothing. -/
def silent : Choice := ⟨fun _ => false, fun _ => none⟩

/-- The choice with one more option given. -/
def say (c : Choice) : Given → Choice
  | .flag f => { c with flags := Function.update c.flags f true }
  | .setting s v => { c with values := Function.update c.values s (some v) }

/-- The choice without a value for a setting. -/
def without (c : Choice) (s : Setting) : Choice := { c with values := Function.update c.values s none }

/-- An option as a choice gives it, if it does. -/
def given? (c : Choice) : Named → Option Given
  | .flag f => if c.flags f then some (.flag f) else none
  | .setting s => (c.values s).map (.setting s)
  | .help => none
  | .version => none

/-- The options that a choice gives. -/
def givens (c : Choice) : List Given := Named.all.filterMap c.given?

/-- The words that a choice is written with. -/
def words (c : Choice) : List String := c.givens.map Given.word

variable {c c' : Choice} {g : Given} {named : Named} {said : List Given} {words : List String}

theorem options_say (c : Choice) (g : Given) : (c.say g).options = g.apply c.options := by
  cases g with
  | flag f => cases f <;> rfl
  | setting s v => cases s <;> rfl

/-- A choice is known by the options that it gives. -/
theorem ext_given? (same : ∀ named, c.given? named = c'.given? named) : c = c' := by
  have flags : c.flags = c'.flags := by
    funext f
    have eq := same (.flag f)
    rw [given?, given?] at eq
    cases h : c.flags f <;> cases h' : c'.flags f <;> simp [h, h'] at eq ⊢
  have values : c.values = c'.values := by
    funext s
    have injective : Function.Injective (Given.setting s) := fun v v' eq => eq_of_heq (Given.setting.inj eq).2
    exact Option.map_injective injective (same (.setting s))
  calc c = ⟨c.flags, c.values⟩ := rfl
    _ = ⟨c'.flags, c'.values⟩ := by rw [flags, values]

theorem named_of_given? (gives : c.given? named = some g) : g.named = named := by
  cases named with
  | flag f =>
    obtain ⟨-, ⟨⟩⟩ := Option.ite_none_right_eq_some.1 gives
    rfl
  | setting s =>
    obtain ⟨v, -, rfl⟩ := Option.map_eq_some_iff.1 gives
    rfl
  | help | version => cases gives

theorem mem_givens : g ∈ c.givens ↔ c.given? g.named = some g := by
  rw [givens, List.mem_filterMap]
  constructor
  · rintro ⟨named, -, gives⟩
    rwa [named_of_given? gives]
  · exact fun gives => ⟨g.named, g.named.mem_all, gives⟩

/-- No option is given twice. -/
theorem nodup_givens (c : Choice) : (c.givens.map Given.named).Nodup := by
  rw [givens, List.map_filterMap]
  refine List.Nodup.filterMap (fun named named' name mem mem' => ?_) (by decide)
  obtain ⟨g, gives, rfl⟩ := Option.map_eq_some_iff.1 mem
  obtain ⟨g', gives', same⟩ := Option.map_eq_some_iff.1 mem'
  rw [← named_of_given? gives, ← named_of_given? gives', same]

theorem given?_say (c : Choice) (g : Given) (named : Named) :
    (c.say g).given? named = if named = g.named then some g else c.given? named := by
  cases g with
  | flag f =>
    cases named with
    | flag f' =>
      by_cases same : f' = f
      · subst same
        simp [say, given?, Given.named]
      · simp [say, given?, Given.named, same]
    | setting s => rfl
    | help | version => rfl
  | setting s v =>
    cases named with
    | flag f => rfl
    | setting s' =>
      by_cases same : s' = s
      · subst same
        simp [say, given?, Given.named]
      · simp [say, given?, Given.named, same]
    | help | version => rfl

theorem given?_without (c : Choice) (s : Setting) : (c.without s).given? (.setting s) = none := by
  simp [without, given?]

/-! ## The order of what is given -/

theorem given?_foldl_other (other : named ∉ said.map Given.named) :
    (said.foldl say c).given? named = c.given? named := by
  induction said generalizing c with
  | nil => rfl
  | cons g said ih =>
    obtain ⟨apart, other⟩ := List.ne_and_not_mem_of_not_mem_cons other
    rw [List.foldl_cons, ih other, given?_say, if_neg apart]

theorem given?_foldl (distinct : (said.map Given.named).Nodup) (mem : g ∈ said) :
    (said.foldl say c).given? g.named = some g := by
  induction said generalizing c with
  | nil => cases mem
  | cons g' said ih =>
    obtain ⟨new, distinct⟩ := List.nodup_cons.1 distinct
    obtain rfl | later := List.mem_cons.1 mem
    · rw [List.foldl_cons, given?_foldl_other new, given?_say, if_pos rfl]
    · exact ih distinct later

theorem nodup_said (order : said.Perm c.givens) : (said.map Given.named).Nodup :=
  (order.map Given.named).nodup_iff.2 c.nodup_givens

/-- To give what a choice gives, in whatever order, is to make that choice. -/
theorem foldl_say (order : said.Perm c.givens) : said.foldl say silent = c := by
  refine ext_given? fun named => ?_
  cases gives : c.given? named with
  | some g =>
    obtain rfl := named_of_given? gives
    exact given?_foldl (nodup_said order) (order.mem_iff.2 (mem_givens.2 gives))
  | none =>
    have other : named ∉ said.map Given.named := fun mem => by
      obtain ⟨g, given, rfl⟩ := List.mem_map.1 mem
      exact Option.some_ne_none g ((mem_givens.1 (order.mem_iff.1 given)).symm.trans gives)
    rw [given?_foldl_other other]
    cases named <;> rfl

/-- The words of a choice in another order are the words of what it gives in another order. -/
theorem exists_said (order : words.Perm c.words) :
    ∃ said : List Given, words = said.map Given.word ∧ said.Perm c.givens :=
  (congrFun₂ (List.eq_map_comp_perm Given.word) words c.givens).mpr order

end Choice

end CommandLine

end CopyBench
