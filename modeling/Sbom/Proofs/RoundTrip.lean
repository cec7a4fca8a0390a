import Sbom.Graph.Decode
import Sbom.Graph.Encode
import Sbom.Proofs.Decoding
import Sbom.Proofs.Instants

/-!
# Reading written graph documents

Every part of the graph model is decoded to what it was written from. So a document is read back from
its text as it was, unless its contacts nest deeper than the reader goes.
-/

namespace Sbom.Graph

open Json

section Names

theorem NodeKind.ofName?_name (kind : NodeKind) : NodeKind.ofName? kind.name = some kind := by
  cases kind <;> rfl

theorem HashAlgorithm.ofName?_name (algorithm : HashAlgorithm) :
    HashAlgorithm.ofName? algorithm.name = some algorithm := by
  cases algorithm <;> rfl

theorem IdentifierKind.ofName?_name (kind : IdentifierKind) :
    IdentifierKind.ofName? kind.name = some kind := by
  cases kind <;> rfl

theorem RelationshipKind.ofName_name (kind : RelationshipKind) :
    RelationshipKind.ofName kind.name = kind := by
  cases kind <;> rfl

theorem DocumentKind.ofName_name (kind : DocumentKind) : DocumentKind.ofName kind.name = kind := by
  cases kind <;> rfl

end Names

section Parts

variable {limit : Nat}

theorem decodes_strings (texts : List String) :
    Decodes limit (decodeList decodeString) (.strings texts) texts :=
  (decodes_list fun text _ => decodes_string text).mono (Nat.le_succ limit)

theorem decodes_optionValue (text? : Option String) :
    Decodes limit (decodeOption decodeString) (optionValue text?) text? := by
  cases text? with
  | none => exact decodes_none
  | some text => exact decodes_some (decodes_string text)

theorem ExternalReference.decodes (reference : ExternalReference) :
    Decodes limit decodeExternalReference reference.toJson reference :=
  decodes_record (by decide)
    (.cons (decodes_string _).optional (.cons (decodes_string _).optional (.nil _)))

theorem Tool.decodes (tool : Tool) : Decodes limit decodeTool tool.toJson tool :=
  decodes_record (by decide) (.cons (decodes_string _).optional
    (.cons (decodes_string _).optional (.cons (decodes_string _).optional (.nil _))))

theorem decodes_instant (instant : Calendar.Instant) :
    Decodes limit decodeInstant (.string instant.text) instant where
  tidy := .string instant.text
  decodes remaining _ _ := by
    rw [draft, decodeInstant, decodeStringAs]
    simp only [bind, Except.bind, instant.parse_text]
    rfl

theorem DocumentType.decodes (entry : DocumentType) :
    Decodes limit decodeDocumentType entry.toJson entry := by
  obtain ⟨kind, name, description⟩ := entry
  have decodesKind : Decodes limit (decodeOption decodeDocumentKind)
      (optionValue (kind.map DocumentKind.name)) kind := by
    cases kind with
    | none => exact decodes_none
    | some kind => exact decodes_some (decodes_variant (congrArg Except.ok kind.ofName_name))
  exact decodes_record (by decide) (.cons decodesKind.optional
    (.cons (decodes_optionValue name).optional
      (.cons (decodes_optionValue description).optional (.nil _))))

theorem Edge.decodes (edge : Edge) : Decodes limit decodeEdge edge.toJson edge := by
  have decodesKind : Decodes limit decodeRelationshipKind (.string edge.kind.name) edge.kind :=
    decodes_variant (congrArg Except.ok edge.kind.ofName_name)
  exact decodes_record (by decide) (.cons (decodes_string _).needed
    (.cons decodesKind.needed (.cons (decodes_strings _).optional (.nil _))))

end Parts

section Persons

theorem personValues_eq_map (persons : List Person) :
    personValues persons = persons.map personValue := by
  induction persons with
  | nil => rfl
  | cons person rest inductionHypothesis =>
      rw [personValues, inductionHypothesis, List.map_cons]

/-- A person is decoded if the contacts are, by a decoder that goes one level deeper. -/
theorem decodes_personValue {limit : Nat} {contacts : List Person} (details : PersonDetails)
    (reads : ∀ contact ∈ contacts,
      Decodes limit (decodePersonTo limit) (personValue contact) contact) :
    Decodes (limit + 1) (decodePersonTo (limit + 1)) (personValue (.node details contacts))
      (.node details contacts) := by
  have decodesContacts : Decodes (limit + 1) (decodeList (decodePersonTo limit))
      (.array (personValues contacts)) contacts := by
    rw [personValues_eq_map]
    exact decodes_list reads
  have distinct : ((personFields (decodePersonTo limit)).map RecordField.name).Nodup := by
    change ["name", "isOrg", "email", "url", "phone", "contacts"].Nodup
    decide
  rw [personValue]
  exact decodes_record distinct (.cons (decodes_string _).optional
    (.cons (decodes_bool _).optional (.cons (decodes_string _).optional
      (.cons (decodes_string _).optional (.cons (decodes_string _).optional
        (.cons decodesContacts.optional (.nil _)))))))

mutual

/-- A person is decoded with all contacts, however deep these nest, as long as the decoder goes as
deep. -/
theorem decodes_personTo : (person : Person) → (limit : Nat) →
    Decodes limit (decodePersonTo limit) (personValue person) person
  | .node details contacts, limit => by
    have reads := fun depth => decodes_personValue details (decodes_personsTo contacts depth)
    cases limit with
    | zero => exact ⟨(reads 0).tidy, fun remaining fits bounded => by omega⟩
    | succ limit => exact reads limit

theorem decodes_personsTo : (persons : List Person) → (limit : Nat) → ∀ person ∈ persons,
    Decodes limit (decodePersonTo limit) (personValue person) person
  | [], _ => fun _ member => absurd member List.not_mem_nil
  | person :: rest, limit =>
    List.forall_mem_cons.mpr ⟨decodes_personTo person limit, decodes_personsTo rest limit⟩

end

theorem decodes_persons (persons : List Person) :
    Decodes nestingLimit (decodeList decodePerson) (.array (personValues persons)) persons := by
  rw [personValues_eq_map]
  exact (decodes_list fun person _ => decodes_personTo person nestingLimit).mono (Nat.le_succ _)

end Persons

/-- A list of parts that are decoded one by one is decoded. -/
theorem decodes_parts {α : Type} {limit : Nat} {decode : Decoder α} {toJson : α → Json}
    (reads : ∀ part, Decodes limit decode (toJson part) part) (parts : List α) :
    Decodes limit (decodeList decode) (.array (parts.map toJson)) parts :=
  (decodes_list fun part _ => reads part).mono (Nat.le_succ limit)

theorem Node.decodes (node : Node) : Decodes nestingLimit decodeNode node.toJson node := by
  have decodesKind : Decodes nestingLimit decodeNodeKind (.string node.kind.name) node.kind := by
    refine decodes_variant ?_
    rw [decodeName, node.kind.ofName?_name]
  have decodesHashes : Decodes nestingLimit decodeHashes
      (entriesValue HashAlgorithm.name node.hashes) node.hashes :=
    decodes_map HashAlgorithm.ofName?_name node.hashes
  have decodesIdentifiers : Decodes nestingLimit decodeIdentifiers
      (entriesValue IdentifierKind.name node.identifiers) node.identifiers :=
    decodes_map IdentifierKind.ofName?_name node.identifiers
  exact decodes_record (by decide) (.cons (decodes_string _).optional
    (.cons decodesKind.optional (.cons (decodes_string _).optional
    (.cons (decodes_string _).optional (.cons (decodes_string _).optional
    (.cons (decodes_string _).optional (.cons (decodes_strings _).optional
    (.cons decodesHashes.optional
    (.cons (decodes_parts ExternalReference.decodes node.externalReferences).optional
    (.cons decodesIdentifiers.optional (.cons (decodes_persons node.suppliers).optional
    (.cons (decodes_string _).optional (.nil _)))))))))))))

theorem NodeList.decodes (list : NodeList) : Decodes nestingLimit decodeNodeList list.toJson list :=
  decodes_record (by decide) (.cons (decodes_parts Node.decodes list.nodes).optional
    (.cons (decodes_parts Edge.decodes list.edges).optional
    (.cons (decodes_strings list.rootElements).optional (.nil _))))

theorem Metadata.decodes (metadata : Metadata) :
    Decodes nestingLimit decodeMetadata metadata.toJson metadata := by
  have decodesDate : Decodes nestingLimit (decodeOption decodeInstant)
      (optionValue (metadata.date.map Calendar.Instant.text)) metadata.date := by
    cases metadata.date with
    | none => exact decodes_none
    | some instant => exact decodes_some (decodes_instant instant)
  exact decodes_record (by decide) (.cons (decodes_string _).optional
    (.cons (decodes_string _).optional (.cons (decodes_string _).optional
    (.cons decodesDate.optional (.cons (decodes_persons metadata.authors).optional
    (.cons (decodes_parts Tool.decodes metadata.tools).optional
    (.cons (decodes_parts DocumentType.decodes metadata.documentTypes).optional (.nil _))))))))

theorem Document.decodes (document : Document) :
    Decodes nestingLimit decodeDocument document.toJson document :=
  decodes_record (by decide) (.cons document.metadata.decodes.optional
    (.cons document.nodeList.decodes.optional (.nil _)))

/-- A document that nests at most 127 levels deep, as deep as the reader goes, is read back from its
text. So reading a text, writing the document and reading it again is the same as reading it once. -/
theorem Document.roundTrips (document : Document) (fits : document.toJson.nesting < 128) :
    Document.parse document.text = .ok document ∧
      ∀ text, Document.parse text = .ok document →
        Document.parse document.text = Document.parse text := by
  have reads : Document.parse document.text = .ok document :=
    decodeText_compactText document.decodes fits
  exact ⟨reads, fun text accepted => reads.trans accepted.symm⟩

/-- A document that uses the corners of the format: a leap second, contacts of contacts, names that
are not given and names that are empty, digests out of order and text that has to be escaped. -/
def cornerDocument : Document where
  metadata := {
    id := "\x00\"\\"
    date := some {
      date := {
        year := -1
        month := 12
        day := 31
        year_inRange := by decide
        month_inRange := by decide
        day_inRange := by decide }
      hour := 23
      minute := 59
      second := 60
      nanosecond := 1500000
      hour_lt := by decide
      minute_lt := by decide
      second_le := by decide
      nanosecond_lt := by decide }
    authors := [.node { name := "a" } [.node { isOrganization := true } [.leaf { email := "é" }]]]
    documentTypes := [{ kind := some .unrecognized }, { name := some "", description := none }] }
  nodeList := {
    nodes := [
      ({ id := "n", kind := .file } : Node).setHash .sha512 "2" |>.setHash .md5 "" |>.setIdentifier
        .gitObject "g"]
    edges := [⟨"n", .other, ["m", "m"]⟩]
    rootElements := ["n"] }

theorem cornerDocument_roundTrips :
    cornerDocument.toJson.nesting < 128 ∧
      Document.parse cornerDocument.text = .ok cornerDocument := by
  have fits : cornerDocument.toJson.nesting < 128 := by decide
  exact ⟨fits, (cornerDocument.roundTrips fits).1⟩

end Sbom.Graph
