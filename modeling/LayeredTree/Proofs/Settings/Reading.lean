import LayeredTree.Proofs.Settings.Overlay
import LayeredTree.Settings.Reading

/-!
# The validation of the command is lawful

Each field is read on its own, from the keyword for it or else from its variable. So the environment
does not matter where every field has a keyword. Settings that have been read are read again from
their own raw values, so they may stand for what they were made from.
-/

namespace LayeredTree.Settings

/-! ## Reading one field after the other -/

theorem assemble_eq_ok_iff {depth : Except Fault { depth : Nat // 0 < depth }}
    {detect : Except Fault Bool} {settings : Settings} :
    assemble depth detect = .ok settings ↔
      depth = .ok ⟨settings.maxDepth, settings.maxDepth_pos⟩ ∧
        detect = .ok settings.detectCycles := by
  constructor
  · intro h
    cases depth <;> cases detect <;> cases h
    exact ⟨rfl, rfl⟩
  · rintro ⟨rfl, rfl⟩
    rfl

/-- What is read where something else may be offered depends on what is read without it. -/
theorem readOr_or {α : Type} {default : α} {read : Value → Except Fault α}
    {offered offered' : Option Value}
    (h : readOr default read offered = readOr default read offered') (first : Option Value) :
    readOr default read (first.or offered) = readOr default read (first.or offered') := by
  cases first with
  | some raw => rfl
  | none => rwa [Option.none_or, Option.none_or]

/-- Settings are read from their own raw values. -/
theorem readOffered_raw (settings : Settings) :
    readOffered (fun field => some (settings.raw field)) = .ok settings := by
  have hdepth : readMaxDepth (.int settings.maxDepth) =
      .ok ⟨settings.maxDepth, settings.maxDepth_pos⟩ := by
    simp [readMaxDepth, readInteger, settings.maxDepth_pos, bind, Except.bind, pure, Except.pure]
  exact assemble_eq_ok_iff.2 ⟨hdepth, rfl⟩

/-- Settings that have been read may stand for what they were read from, also where something else
is offered for some fields. -/
theorem readOffered_or {offered : Field → Option Value} {settings : Settings}
    (h : readOffered offered = .ok settings) (first : Field → Option Value) :
    readOffered (fun field => (first field).or (some (settings.raw field))) =
      readOffered fun field => (first field).or (offered field) := by
  obtain ⟨hdepth, hdetect⟩ := assemble_eq_ok_iff.1 h
  obtain ⟨hdepth', hdetect'⟩ := assemble_eq_ok_iff.1 settings.readOffered_raw
  rw [readOffered, readOffered, readOr_or (hdepth'.trans hdepth.symm),
    readOr_or (hdetect'.trans hdetect.symm)]

/-! ## Looking for keywords -/

/-- A text in lower case is made of its characters in lower case. -/
theorem toLower_eq_ofList (text : String) :
    text.toLower = String.ofList (text.toList.map Char.toLower) := by
  show text.map Char.toLower = _
  rw [← String.toList_inj, String.toList_map, String.toList_ofList]

/-- The names of fields are in lower case. -/
theorem toLower_name (field : Field) : field.name.toLower = field.name := by
  cases field <;> rw [toLower_eq_ofList] <;> decide

/-- Where all names are names of fields, keywords are found by their names. -/
theorem keyword?_of_known {keywords : Keywords} (h : keywords.Known) (field : Field) :
    keyword? keywords field = keywords.lookup field.name := by
  rw [keyword?]
  induction keywords with
  | nil => rfl
  | cons entry keywords ih =>
    obtain ⟨⟨other, hother⟩, hrest⟩ := List.forall_mem_cons.1 h
    rw [List.find?_cons, List.lookup_cons, ← hother, toLower_name, BEq.comm]
    cases field.name == other.name with
    | true => rfl
    | false => exact ih hrest

/-- Where every field has a value, a keyword is found for it. -/
theorem isSome_keyword?_of_complete {keywords : Keywords} (h : keywords.Complete) (field : Field) :
    (keyword? keywords field).isSome = true := by
  obtain ⟨entry, hm, he⟩ := List.lookup_isSome_iff.1 (h field)
  rw [keyword?, Option.isSome_map, List.find?_isSome]
  exact ⟨entry, hm, by rw [← eq_of_beq he, toLower_name, beq_self_eq_true]⟩

/-- What is offered where keywords are laid over others. -/
theorem offered_onto {later earlier : Keywords} (h : later.Known) (h' : earlier.Known)
    (environment : Environment) (field : Field) :
    offered environment (later.onto earlier) field =
      (keyword? later field).or (offered environment earlier field) := by
  rw [offered, keyword?_of_known (h.onto h'), keyword?_of_known h, Keywords.lookup_onto, offered,
    keyword?_of_known h', Option.or_assoc]

/-- The environment offers nothing where settings offer their own raw values. -/
theorem offered_dump (environment : Environment) (settings : Settings) (field : Field) :
    offered environment settings.dump field = some (settings.raw field) := by
  rw [offered, keyword?_of_known settings.known_dump, lookup_dump, Option.some_or]

/-- The validation of the command obeys both laws. -/
theorem lawful_reading : @LawfulValidation reading :=
  let _ := reading
  { validate_of_complete := by
      intro keywords complete environment environment'
      refine congrArg readOffered (funext fun field => ?_)
      obtain ⟨raw, hraw⟩ := Option.isSome_iff_exists.1 (isSome_keyword?_of_complete complete field)
      rw [offered, offered, hraw, Option.some_or, Option.some_or]
    validate_onto_dump := by
      intro environment keywords settings known accepted later later_known
      have h := readOffered_or accepted (keyword? later)
      show readOffered (offered environment _) = readOffered (offered environment _)
      rw [funext (offered_onto later_known settings.known_dump environment),
        funext (offered_onto later_known known environment), ← h]
      exact congrArg readOffered
        (funext fun field => by rw [offered_dump environment settings field]) }

end LayeredTree.Settings
