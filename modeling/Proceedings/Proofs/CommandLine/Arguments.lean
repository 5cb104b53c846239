import Proceedings.CommandLine.Arguments
import Proceedings.Proofs.Json.Printer

/-! # What arguments hold

Whatever the command line, an option holds null or a text, or the empty list that is left of two
dashes where these are dropped. Where they are kept, the format is one of the formats.
-/

namespace Proceedings

namespace CommandLine

/-- The word of an option: null for none, and an empty list for two dashes that were dropped. -/
def DashRule.IsWord (rule : DashRule) (v : Value) : Prop :=
  v = .null ∨ (rule = .dropped ∧ v = .list []) ∨ ∃ t, v = .text t

def DashRule.IsFormat (rule : DashRule) (formats : List String) (v : Value) : Prop :=
  v = .null ∨ (rule = .dropped ∧ v = .list []) ∨ ∃ f ∈ formats, v = .str f

structure Arguments.HoldsWords (rule : DashRule) (formats : List String) (a : Arguments) :
    Prop where
  room : rule.IsWord a.room
  participants : rule.IsWord a.participants
  outputDirectory : rule.IsWord a.outputDirectory
  format : rule.IsFormat formats a.format

structure Invocation.HoldsWords (rule : DashRule) (formats : List String) (i : Invocation) :
    Prop where
  room : rule.IsWord i.room
  participants : rule.IsWord i.participants
  outputDirectory : rule.IsWord i.outputDirectory ∧ i.outputDirectory ≠ .null
  format : rule.IsFormat ("json" :: formats) i.format ∧ i.format ≠ .null

variable {rule : DashRule} {formats : List String} {a b : Arguments} {v : Value}

theorem DashRule.IsWord.isJson (h : rule.IsWord v) : v.IsJson := by
  rcases h with rfl | ⟨-, rfl⟩ | ⟨t, rfl⟩
  · exact .null
  · exact .list nofun
  · exact .text t

theorem DashRule.IsWord.exists_text (h : rule.IsWord v) (htrue : v.isTruthy = true) :
    ∃ t, v = .text t := by
  rcases h with rfl | ⟨-, rfl⟩ | h
  · cases htrue
  · cases htrue
  · exact h

theorem Arguments.HoldsWords.setWord {o : OptionKind} {w : Text} (ha : a.HoldsWords rule formats)
    (h : a.setWord rule formats o w = .ok b) : b.HoldsWords rule formats := by
  have hdropped (hdrops : rule.drops w = true) : rule = .dropped := by
    simp [DashRule.drops] at hdrops
    exact hdrops.1
  have hword : rule.IsWord (if rule.drops w then .list [] else .text w) := by
    split
    · next hdrops => exact .inr (.inl ⟨hdropped hdrops, rfl⟩)
    · exact .inr (.inr ⟨w, rfl⟩)
  unfold Arguments.setWord at h
  cases o with
  | room =>
    obtain rfl := Except.ok.inj h
    exact { ha with room := hword }
  | participants =>
    obtain rfl := Except.ok.inj h
    exact { ha with participants := hword }
  | outputDirectory =>
    obtain rfl := Except.ok.inj h
    exact { ha with outputDirectory := hword }
  | format =>
    dsimp only at h
    split at h
    · next hchecked =>
      obtain rfl := Except.ok.inj h
      refine { ha with format := ?_ }
      dsimp only
      split
      · next hdrops => exact .inr (.inl ⟨hdropped hdrops, rfl⟩)
      · next hdrops =>
        simp only [hdrops, Bool.false_or, List.any_eq_true, beq_iff_eq] at hchecked
        obtain ⟨f, hf, rfl⟩ := hchecked
        exact .inr (.inr ⟨f, hf, rfl⟩)
    · cases h
  | help | webhook => cases h

theorem readTokens_holdsWords {tokens : List Token} : a.HoldsWords rule formats →
    readTokens rule formats tokens a = .ok (.arguments b) → b.HoldsWords rule formats := by
  fun_induction readTokens rule formats tokens a
  case case1 =>
    intro ha h
    obtain rfl := Reading.arguments.inj (Except.ok.inj h)
    exact ha
  -- an option with its word, attached or next to it
  case case14 ih | case15 ih =>
    intro ha h
    obtain ⟨c, hc, h⟩ := bind_eq_ok.mp h
    exact ih c (ha.setWord hc) h
  -- a fault, or a call for help
  case case10 | case11 | case13 | case16 =>
    intro ha h
    cases h
  -- anything else leaves the options alone, but for the switch to the webhook
  all_goals
    next ih =>
      intro ha h
      exact ih { ha with } h

theorem DashRule.IsWord.orDefault (h : rule.IsWord v) (other : String) :
    rule.IsWord (orDefault v other) ∧ orDefault v other ≠ .null := by
  rcases h with rfl | ⟨hrule, rfl⟩ | ⟨t, rfl⟩
  · exact ⟨.inr (.inr ⟨_, rfl⟩), nofun⟩
  · exact ⟨.inr (.inl ⟨hrule, rfl⟩), nofun⟩
  · exact ⟨.inr (.inr ⟨t, rfl⟩), nofun⟩

theorem DashRule.IsFormat.orDefault (h : rule.IsFormat formats v) (other : String) :
    rule.IsFormat (other :: formats) (orDefault v other) ∧ orDefault v other ≠ .null := by
  rcases h with rfl | ⟨hrule, rfl⟩ | ⟨f, hf, rfl⟩
  · exact ⟨.inr (.inr ⟨_, List.mem_cons_self, rfl⟩), nofun⟩
  · exact ⟨.inr (.inl ⟨hrule, rfl⟩), nofun⟩
  · exact ⟨.inr (.inr ⟨f, List.mem_cons_of_mem _ hf, rfl⟩), nofun⟩

theorem parse_holdsWords {outputDirectory : String} {argv : List Text} {i : Invocation}
    (h : parse rule outputDirectory formats argv = .ok (some i)) : i.HoldsWords rule formats := by
  have hempty : Arguments.empty.HoldsWords rule formats :=
    ⟨.inl rfl, .inl rfl, .inl rfl, .inl rfl⟩
  obtain ⟨tokens, -, h⟩ := bind_eq_ok.mp h
  obtain ⟨reading, hread, h⟩ := bind_eq_ok.mp h
  cases reading with
  | help => cases h
  | arguments a =>
    obtain ⟨i', hi, h⟩ := bind_eq_ok.mp h
    obtain rfl := Option.some.inj (Except.ok.inj h)
    have ha := readTokens_holdsWords hempty hread
    unfold Arguments.invocation at hi
    split at hi
    · cases hi
    · cases hi
    · obtain rfl := Except.ok.inj hi
      exact ⟨ha.room, ha.participants, ha.outputDirectory.orDefault _, ha.format.orDefault _⟩

/-- Where two dashes are kept, there is a directory, and the format is one that there is. -/
theorem parse_kept {outputDirectory : String} {argv : List Text} {i : Invocation}
    (h : parse .kept outputDirectory formats argv = .ok (some i)) :
    (∃ t, i.outputDirectory = .text t) ∧ ∃ f ∈ "json" :: formats, i.format = .str f := by
  obtain ⟨-, -, ⟨hdirectory, hnull⟩, ⟨hformat, hnone⟩⟩ := parse_holdsWords h
  constructor
  · rcases hdirectory with h | ⟨h, -⟩ | h
    · exact absurd h hnull
    · cases h
    · exact h
  · rcases hformat with h | ⟨h, -⟩ | h
    · exact absurd h hnone
    · cases h
    · exact h

end CommandLine

end Proceedings
