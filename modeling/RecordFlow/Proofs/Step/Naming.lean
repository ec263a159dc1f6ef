import RecordFlow.Pipeline.Graph
import RecordFlow.Proofs.Document.Fields

/-!
# What the document of a configuration names

The sources and the output of a step can be seen in the document of its configuration without
reading it. A document may name more sources than the kind of the step reads, since every key that
names a source for some kind counts, but never fewer.

## Main definitions

* `StepConfig.IsNamedIn` — a document names the sources and the output of a configuration

## Main results

* `StepConfig.isNamedIn_of_parse` — the document from which a configuration is read names them
-/

namespace RecordFlow

/-! ### Loose readings -/

namespace Node

variable {fields : List (String × Json)} {key name : String}

theorem textAt?_obj :
    textAt? (.obj fields) key = some name ↔ fields.lookup key = some (.str name) := by
  rw [textAt?, Json.field?]
  cases fields.lookup key with
  | none => simp
  | some json => cases json <;> simp [Json.asStr?]

theorem mem_sourcesIn_of_textAt? {config : Json} (hkey : key ∈ sourceKeys)
    (h : textAt? config key = some name) : name ∈ sourcesIn config :=
  List.mem_append_left _ (List.mem_filterMap.mpr ⟨key, hkey, h⟩)

theorem mem_sourcesIn_of_sources {texts : List String}
    (h : fields.lookup "sources" = some (.arr (texts.map Json.str))) (hname : name ∈ texts) :
    name ∈ sourcesIn (.obj fields) := by
  refine List.mem_append_right _ ?_
  simpa [Json.field?, h, Json.asArr?, Json.asStr?] using hname

end Node

namespace StepConfig

/-- A document names the output of a configuration and all of its sources. -/
structure IsNamedIn (config : StepConfig) (json : Json) : Prop where
  output : Node.textAt? json "output" = some config.output
  sources : config.sources ⊆ Node.sourcesIn json

variable {fields : List (String × Json)} {config : StepConfig}

/-- The document of a step with one source. -/
theorem isNamedIn_of_source {source output : String} (hsources : config.sources = [source])
    (houtput : config.output = output) (source_eq : fields.lookup "source" = some (.str source))
    (output_eq : fields.lookup "output" = some (.str output)) : config.IsNamedIn (.obj fields) where
  output := Node.textAt?_obj.mpr (houtput ▸ output_eq)
  sources := by
    rw [hsources]
    exact List.forall_mem_singleton.mpr
      (Node.mem_sourcesIn_of_textAt? (by decide) (Node.textAt?_obj.mpr source_eq))

/-- The document of a step with two sources. -/
theorem isNamedIn_of_two_sources {first second key key' output : String}
    (hsources : config.sources = [first, second]) (houtput : config.output = output)
    (hkey : key ∈ Node.sourceKeys) (hkey' : key' ∈ Node.sourceKeys)
    (first_eq : fields.lookup key = some (.str first))
    (second_eq : fields.lookup key' = some (.str second))
    (output_eq : fields.lookup "output" = some (.str output)) : config.IsNamedIn (.obj fields) where
  output := Node.textAt?_obj.mpr (houtput ▸ output_eq)
  sources := by
    rw [hsources]
    exact List.forall_mem_cons.mpr
      ⟨Node.mem_sourcesIn_of_textAt? hkey (Node.textAt?_obj.mpr first_eq),
        List.forall_mem_singleton.mpr
          (Node.mem_sourcesIn_of_textAt? hkey' (Node.textAt?_obj.mpr second_eq))⟩

open FieldReader in
theorem isNamedIn_of_read {kind : StepKind} (h : read kind (.obj fields) = .ok config) :
    config.IsNamedIn (.obj fields) := by
  -- The cases are the kinds: each tells its fields apart, and keeps those that name a set.
  cases kind with
  | filter =>
    have gives := gives_of_map_readStruct h
    simp only [filterFields, gives_seq_iff, gives_map_iff, gives_textField_iff] at gives
    obtain ⟨source, hsource, output, houtput, _, -, _, -, rfl⟩ := gives
    exact isNamedIn_of_source rfl rfl hsource houtput
  | map =>
    have gives := gives_of_map_readStruct h
    simp only [mapFields, gives_seq_iff, gives_map_iff, gives_textField_iff] at gives
    obtain ⟨source, hsource, output, houtput, _, -, _, -, rfl⟩ := gives
    exact isNamedIn_of_source rfl rfl hsource houtput
  | aggregate =>
    have gives := gives_of_map_readStruct h
    simp only [aggregateFields, gives_seq_iff, gives_map_iff, gives_textField_iff] at gives
    obtain ⟨source, hsource, output, houtput, _, -, _, -, _, -, rfl⟩ := gives
    exact isNamedIn_of_source rfl rfl hsource houtput
  | join =>
    have gives := gives_of_map_readStruct h
    simp only [joinFields, gives_seq_iff, gives_map_iff, gives_textField_iff] at gives
    obtain ⟨left, hleft, right, hright, output, houtput, _, -, _, -, _, -, _, -, rfl⟩ := gives
    exact isNamedIn_of_two_sources rfl rfl (by decide) (by decide) hleft hright houtput
  | lookup =>
    have gives := gives_of_map_readStruct h
    simp only [lookupFields, gives_seq_iff, gives_map_iff, gives_textField_iff] at gives
    obtain ⟨source, hsource, reference, hreference, _, -, _, -, _, -, _, -, output, houtput, rfl⟩ :=
      gives
    exact isNamedIn_of_two_sources rfl rfl (by decide) (by decide) hsource hreference houtput
  | union =>
    have gives := gives_of_map_readStruct h
    simp only [unionFields, gives_seq_iff, gives_map_iff, gives_textField_iff, gives_required_iff,
      textsReader_eq_ok] at gives
    obtain ⟨_, hsources, texts, rfl, output, houtput, _, -, _, -, rfl⟩ := gives
    exact ⟨Node.textAt?_obj.mpr houtput, fun name => Node.mem_sourcesIn_of_sources hsources⟩
  | deduplicate =>
    have gives := gives_of_map_readStruct h
    simp only [deduplicateFields, gives_seq_iff, gives_map_iff, gives_textField_iff] at gives
    obtain ⟨source, hsource, output, houtput, _, -, _, -, _, -, rfl⟩ := gives
    exact isNamedIn_of_source rfl rfl hsource houtput
  | sort =>
    have gives := gives_of_map_readStruct h
    simp only [sortFields, gives_seq_iff, gives_map_iff, gives_textField_iff] at gives
    obtain ⟨source, hsource, output, houtput, _, -, rfl⟩ := gives
    exact isNamedIn_of_source rfl rfl hsource houtput
  | limit =>
    have gives := gives_of_map_readStruct h
    simp only [limitFields, gives_seq_iff, gives_map_iff, gives_textField_iff] at gives
    obtain ⟨source, hsource, output, houtput, _, -, _, -, rfl⟩ := gives
    exact isNamedIn_of_source rfl rfl hsource houtput
  | pivot =>
    have gives := gives_of_map_readStruct h
    simp only [pivotFields, gives_seq_iff, gives_map_iff, gives_textField_iff] at gives
    obtain ⟨source, hsource, output, houtput, _, -, _, -, _, -, _, -, rfl⟩ := gives
    exact isNamedIn_of_source rfl rfl hsource houtput
  | unpivot =>
    have gives := gives_of_map_readStruct h
    simp only [unpivotFields, gives_seq_iff, gives_map_iff, gives_textField_iff] at gives
    obtain ⟨source, hsource, output, houtput, _, -, _, -, _, -, _, -, rfl⟩ := gives
    exact isNamedIn_of_source rfl rfl hsource houtput
  | flatten =>
    have gives := gives_of_map_readStruct h
    simp only [flattenFields, gives_seq_iff, gives_map_iff, gives_textField_iff] at gives
    obtain ⟨source, hsource, output, houtput, _, -, _, -, _, -, rfl⟩ := gives
    exact isNamedIn_of_source rfl rfl hsource houtput

/-- The document from which a configuration is read names its output and all of its sources. -/
theorem isNamedIn_of_parse {kind : StepKind} (h : parse kind (.obj fields) = .ok config) :
    config.IsNamedIn (.obj fields) := by
  rw [parse] at h
  cases read : StepConfig.read kind (.obj fields) with
  | error rejection => simp [read, Except.mapError] at h
  | ok same =>
    obtain rfl : same = config := by simpa [read, Except.mapError] using h
    exact isNamedIn_of_read read

end StepConfig

end RecordFlow
