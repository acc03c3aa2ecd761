import LayeredTree.Settings.Ambient
import Mathlib.Data.List.Induction

/-!
# Overlaying settings

Settings may be overlaid with raw values, given in several rounds of keywords; of two values for one
field the later round wins, and a field without a value stays as it is. The rounds may be accepted
one after the other or all at once: what has been accepted may stand for what it was made from. The
environment does not matter, since every field is given.
-/

namespace LayeredTree

namespace Settings

namespace Keywords

variable {later earlier : Keywords}

/-- Replacing values keeps the names. -/
theorem lookup_map (keywords : Keywords) (f : String → Value → Value) (name : String) :
    (keywords.map fun entry => (entry.1, f entry.1 entry.2)).lookup name =
      (keywords.lookup name).map (f name) := by
  induction keywords with
  | nil => rfl
  | cons entry keywords ih =>
    rw [List.map_cons, List.lookup_cons, List.lookup_cons]
    cases hn : name == entry.1 with
    | true =>
      rw [eq_of_beq hn]
      rfl
    | false => exact ih

/-- Leaving out other names does not matter for a name. -/
theorem lookup_filter (keywords : Keywords) (keep : String → Bool) {name : String}
    (h : keep name = true) :
    (keywords.filter fun entry => keep entry.1).lookup name = keywords.lookup name := by
  induction keywords with
  | nil => rfl
  | cons entry keywords ih =>
    rw [List.filter_cons, List.lookup_cons]
    cases hn : name == entry.1 with
    | true => rw [← eq_of_beq hn, if_pos h, List.lookup_cons, hn]
    | false =>
      split
      · rw [List.lookup_cons, hn]
        exact ih
      · exact ih

/-- Of two keywords for a name, the later one counts. -/
theorem lookup_onto (later earlier : Keywords) (name : String) :
    (later.onto earlier).lookup name = (later.lookup name).or (earlier.lookup name) := by
  rw [onto, List.lookup_append, lookup_map earlier fun name => (later.lookup name).getD]
  cases h : earlier.lookup name with
  | none =>
    rw [Option.map_none, Option.none_or, Option.or_none]
    exact lookup_filter later (fun name => (earlier.lookup name).isNone) (by rw [h]; rfl)
  | some raw => cases later.lookup name <;> rfl

/-- Where nothing is laid over, keywords stay as they are. -/
theorem nil_onto (keywords : Keywords) : onto [] keywords = keywords := by
  rw [onto, List.filter_nil, List.append_nil]
  exact List.map_id' _

theorem known_nil : Known [] := fun _ h => nomatch h

/-- Known keywords laid over known ones are known. -/
theorem Known.onto (h : later.Known) (h' : earlier.Known) : (later.onto earlier).Known := by
  intro entry hm
  rcases List.mem_append.1 hm with hm | hm
  · obtain ⟨old, ho, rfl⟩ := List.mem_map.1 hm
    exact h' old ho
  · exact h entry (List.mem_filter.1 hm).1

/-- What is laid over complete keywords leaves them complete. -/
theorem Complete.onto (h : earlier.Complete) (later : Keywords) :
    (later.onto earlier).Complete := by
  intro field
  rw [lookup_onto, Option.isSome_or, h field, Bool.or_true]

end Keywords

/-- Settings stand among their keywords with the value of each field. -/
theorem lookup_dump (settings : Settings) (field : Field) :
    settings.dump.lookup field.name = some (settings.raw field) := by
  cases field <;> rfl

theorem known_dump (settings : Settings) : settings.dump.Known := by
  intro entry hm
  obtain ⟨field, -, rfl⟩ := List.mem_map.1 hm
  exact ⟨field, rfl⟩

theorem complete_dump (settings : Settings) : settings.dump.Complete := by
  intro field
  rw [lookup_dump, Option.isSome_some]

/-- Several rounds of keywords, the latest last, laid over the keywords of settings. -/
def overlay (base : Settings) (rounds : List Keywords) : Keywords :=
  rounds.foldl (fun merged round => round.onto merged) base.dump

theorem overlay_append_singleton (base : Settings) (rounds : List Keywords) (round : Keywords) :
    base.overlay (rounds ++ [round]) = round.onto (base.overlay rounds) :=
  List.foldl_append

theorem complete_overlay (base : Settings) (rounds : List Keywords) :
    (base.overlay rounds).Complete := by
  induction rounds using List.reverseRecOn with
  | nil => exact base.complete_dump
  | append_singleton rounds round ih =>
    rw [overlay_append_singleton]
    exact ih.onto round

theorem known_overlay (base : Settings) {rounds : List Keywords}
    (h : ∀ round ∈ rounds, round.Known) : (base.overlay rounds).Known := by
  induction rounds using List.reverseRecOn with
  | nil => exact base.known_dump
  | append_singleton rounds round ih =>
    rw [overlay_append_singleton]
    obtain ⟨hrounds, hround⟩ := List.forall_mem_append.1 h
    exact (List.forall_mem_singleton.1 hround).onto (ih hrounds)

variable [Validation]

/-- Settings with some fields replaced by the raw values of several rounds, the latest last. -/
def overlaid (base : Settings) (rounds : List Keywords) : Except (List Error) Settings :=
  validate {} (base.overlay rounds)

section Laws

variable [LawfulValidation] {base current : Settings} {rounds : List Keywords}
  {environment : Environment}

open LawfulValidation

/-- Settings with a round laid over them are validated without regard to the environment. -/
theorem validate_onto_dump_eq_overlaid (environment : Environment) (base : Settings)
    (round : Keywords) : validate environment (round.onto base.dump) = base.overlaid [round] :=
  validate_of_complete (base.complete_overlay [round]) environment {}

/-- Without a round, settings that were accepted stay as they are. -/
theorem overlaid_nil_of_validate {keywords : Keywords} (known : keywords.Known)
    (accepted : validate environment keywords = .ok base) : base.overlaid [] = .ok base := by
  have h := validate_onto_dump known accepted Keywords.known_nil
  rw [Keywords.nil_onto, Keywords.nil_onto, accepted] at h
  exact (validate_of_complete base.complete_dump {} environment).trans h

/-- A further round may be laid over the settings that the earlier rounds have come to. -/
theorem overlaid_append_singleton (known : ∀ round ∈ rounds, round.Known)
    (accepted : base.overlaid rounds = .ok current) {round : Keywords} (round_known : round.Known) :
    base.overlaid (rounds ++ [round]) = current.overlaid [round] := by
  rw [overlaid, overlay_append_singleton]
  exact (validate_onto_dump (base.known_overlay known) accepted round_known).symm

end Laws

end Settings

/-- A name is unknown when a keyword has it and no field does. -/
theorem Ambient.mem_unknownNames_iff {keywords : Settings.Keywords} {name : String} :
    name ∈ unknownNames keywords ↔
      (∃ entry ∈ keywords, entry.1 = name) ∧ ¬∃ field : Settings.Field, field.name = name := by
  have hfield : name ∈ Settings.fields.map (·.name) ↔ ∃ field : Settings.Field, field.name = name :=
    List.mem_map.trans
      ⟨fun ⟨field, _, he⟩ => ⟨field, he⟩, fun ⟨field, he⟩ => ⟨field, by cases field <;> decide, he⟩⟩
  rw [unknownNames, List.mem_mergeSort, List.mem_eraseDups, List.mem_filter, List.mem_map,
    Bool.not_eq_true', ← Bool.not_eq_true, List.contains_iff_mem, hfield]

/-- No name is unknown when all are names of fields. -/
theorem Ambient.isEmpty_unknownNames_iff {keywords : Settings.Keywords} :
    (unknownNames keywords).isEmpty = true ↔ keywords.Known := by
  rw [List.isEmpty_iff, List.eq_nil_iff_forall_not_mem]
  simp only [mem_unknownNames_iff, not_and, Classical.not_not]
  constructor
  · intro h entry hm
    exact h entry.1 ⟨entry, hm, rfl⟩
  · rintro h name ⟨entry, hm, rfl⟩
    exact h entry hm

end LayeredTree
