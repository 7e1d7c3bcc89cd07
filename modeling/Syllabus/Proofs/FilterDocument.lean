/-
**Filters mean what their documents mean.**

A filter is evaluated on documents, or handed to a server as a document of its own. Such a document has
one condition a field, so of two conditions on a field only the later one is left, and a value that looks
like an operator would be taken for one. Apart from this, both forms ask for the same.

* `Answers`, `Demands` — what answers to a value, and what one field of a filter document demands, said
  without either way to evaluate them; `Filter.asksAll_iff` — a server asks for just this;
* `Filter.IsPlain`, `Filter.IsDistinct` — no value looks like an operator; no field has two conditions;
* `Filter.document_eq_map` — the document of conditions on different fields is these conditions;
* `Errand.asks_faithful` — the filters of the operations on records;
* **`filters_mean_their_documents`** — what a filter accepts, its document finds, and the other way
  round where the fields are distinct.
-/

import Syllabus.Mongo.Server
import Syllabus.Proofs.Asks
import Syllabus.Proofs.Ledger
import Syllabus.Proofs.Undisturbed

namespace Syllabus

/-! ### What a filter document demands -/

/-- What a field has answers to the value asked for: nothing at all to null, a value to one equal to it,
and a list to what it holds. -/
inductive Answers : Option Bson → Bson → Prop where
  | missing : Answers none .null
  | equal (held asked : Bson) : held.same asked = true → Answers (some held) asked
  | holding (items : List Bson) (item asked : Bson) : item ∈ items → item.same asked = true →
      Answers (some (.array items)) asked

/-- What the value of a field in a filter document demands of a document's field: that it does not answer
to what an operator excludes, that it answers to something that an operator lists, or that it answers to
any other value itself. -/
structure Demands (held : Option Bson) (asked : Bson) : Prop where
  excluding : ∀ value, asked = .document [(Filter.excludeKey, value)] → ¬ Answers held value
  listing : ∀ values, asked = .document [(Filter.listKey, .array values)] →
    ∃ value ∈ values, Answers held value
  other : (∀ value, asked ≠ .document [(Filter.excludeKey, value)]) →
    (∀ values, asked ≠ .document [(Filter.listKey, .array values)]) → Answers held asked

theorem valueMatches_iff (held : Option Bson) (asked : Bson) :
    valueMatches held asked = true ↔ Answers held asked := by
  constructor
  · intro matched
    unfold valueMatches at matched
    split at matched
    · exact .missing
    · cases matched
    · rcases Bool.or_eq_true_iff.mp matched with same | some
      · exact .equal _ _ same
      · obtain ⟨item, member, same⟩ := List.any_eq_true.mp some
        exact .holding _ item _ member same
    · exact .equal _ _ matched
  · rintro (_ | ⟨held, _, same⟩ | ⟨items, item, _, member, same⟩)
    · rfl
    · cases held <;> simp [valueMatches, same]
    · simp only [valueMatches, Bool.or_eq_true, List.any_eq_true]
      exact .inr ⟨item, member, same⟩

theorem any_valueMatches_iff (held : Option Bson) (values : List Bson) :
    values.any (valueMatches held ·) = true ↔ ∃ value ∈ values, Answers held value := by
  simp only [List.any_eq_true, valueMatches_iff]

namespace Filter

theorem asks_exclude (held : Option Bson) (value : Bson) :
    asks held (.document [(excludeKey, value)]) = !valueMatches held value := by
  cases value <;> simp [asks]

theorem asks_list (held : Option Bson) (values : List Bson) :
    asks held (.document [(listKey, .array values)]) = values.any (valueMatches held ·) := by
  have apart : listKey ≠ excludeKey := by decide
  simp [asks, apart]

/-- A value that is no operator is asked for itself. -/
theorem asks_of_ne {asked : Bson} (included : ∀ value, asked ≠ .document [(excludeKey, value)])
    (unlisted : ∀ values, asked ≠ .document [(listKey, .array values)]) (held : Option Bson) :
    asks held asked = valueMatches held asked := by
  unfold asks
  split
  · next operator argument =>
    rw [if_neg fun same => included argument (by rw [same])]
    split
    · next values => rw [if_neg fun same => unlisted values (by rw [same])]
    · rfl
  · rfl

theorem asks_iff (held : Option Bson) (asked : Bson) : asks held asked = true ↔ Demands held asked := by
  by_cases excluding : ∃ value, asked = .document [(excludeKey, value)]
  · obtain ⟨value, rfl⟩ := excluding
    rw [asks_exclude, Bool.not_eq_true', ← Bool.not_eq_true, valueMatches_iff]
    constructor
    · intro unanswered
      refine ⟨fun other same => ?_, fun values same => ?_, fun included => absurd rfl (included value)⟩
      · cases same
        exact unanswered
      · simp [excludeKey, listKey] at same
    · exact fun demands => demands.excluding value rfl
  by_cases listing : ∃ values, asked = .document [(listKey, .array values)]
  · obtain ⟨values, rfl⟩ := listing
    rw [asks_list, any_valueMatches_iff]
    constructor
    · intro answered
      refine ⟨fun value same => absurd ⟨value, same⟩ excluding, fun others same => ?_,
        fun _ unlisted => absurd rfl (unlisted values)⟩
      cases same
      exact answered
    · exact fun demands => demands.listing values rfl
  have included : ∀ value, asked ≠ .document [(excludeKey, value)] :=
    fun value same => excluding ⟨value, same⟩
  have unlisted : ∀ values, asked ≠ .document [(listKey, .array values)] :=
    fun values same => listing ⟨values, same⟩
  rw [asks_of_ne included unlisted, valueMatches_iff]
  exact ⟨fun answered => ⟨fun value same => absurd same (included value),
    fun values same => absurd same (unlisted values), fun _ _ => answered⟩,
    fun demands => demands.other included unlisted⟩

/-- A server asks that every field of a filter document has its demand met. -/
theorem asksAll_iff (filter document : Document) : asksAll filter document = true ↔
    ∀ field asked, (field, asked) ∈ filter → Demands (document.get? field) asked := by
  simp only [asksAll, List.all_eq_true, asks_iff, Prod.forall]

end Filter

/-! ### The document of a filter -/

/-- A server takes the value for operators: it is a document whose first key starts with a dollar
sign. -/
def Bson.isOperator : Bson → Bool
  | .document fields => Mongo.hasOperators fields
  | _ => false

namespace Filter

/-- No value that the filter asks for would be taken for operators. -/
def IsPlain (filter : Filter) : Prop :=
  ∀ field value, (field, .eq value) ∈ filter.clauses → value.isOperator = false

/-- No field has two conditions. -/
def IsDistinct (filter : Filter) : Prop :=
  (filter.clauses.map Prod.fst).Nodup

theorem asks_of_not_operator {asked : Bson} (plain : asked.isOperator = false) (held : Option Bson) :
    asks held asked = valueMatches held asked := by
  have dollar : ∀ key ∈ [excludeKey, listKey], key.startsWith "$" = true := by decide +kernel
  refine asks_of_ne (fun value same => ?_) (fun values same => ?_) held
  · rw [same, Bson.isOperator, Mongo.hasOperators, dollar _ (by simp)] at plain
    cases plain
  · rw [same, Bson.isOperator, Mongo.hasOperators, dollar _ (by simp)] at plain
    cases plain

/-- A condition asks as a field of a filter document what it asks by itself. -/
theorem asks_rendered {field : String} {condition : Condition} {filter : Filter}
    (plain : filter.IsPlain) (member : (field, condition) ∈ filter.clauses) (held : Option Bson) :
    asks held condition.rendered = condition.holds held := by
  cases condition with
  | eq value => exact asks_of_not_operator (plain field value member) held
  | ne value => exact asks_exclude held value
  | oneOf values => exact asks_list held values

theorem mem_insert {key field : String} {value asked : Bson} {document : Document}
    (member : (field, asked) ∈ document.insert key value) :
    (field, asked) = (key, value) ∨ (field, asked) ∈ document := by
  induction document with
  | nil => exact .inl (List.mem_singleton.mp member)
  | cons first rest ih =>
    obtain ⟨name, old⟩ := first
    unfold Document.insert at member
    split at member
    · next same =>
      rcases List.mem_cons.mp member with here | later
      · exact .inl (same ▸ here)
      · exact .inr (List.mem_cons_of_mem _ later)
    · rcases List.mem_cons.mp member with here | later
      · exact .inr (here ▸ List.mem_cons_self)
      · exact (ih later).imp_right (List.mem_cons_of_mem _)

/-- Every field of the document comes from a condition on it. -/
theorem exists_clause_of_mem {filter : Filter} {field : String} {asked : Bson}
    (member : (field, asked) ∈ filter.document) :
    ∃ condition, (field, condition) ∈ filter.clauses ∧ asked = condition.rendered := by
  have collected : ∀ (clauses : List (String × Condition)) (document : Document),
      (field, asked) ∈ clauses.foldl
        (fun document clause => document.insert clause.1 clause.2.rendered) document →
      (field, asked) ∈ document ∨
        ∃ condition, (field, condition) ∈ clauses ∧ asked = condition.rendered := by
    intro clauses
    induction clauses with
    | nil => exact fun document member => .inl member
    | cons clause clauses ih =>
      intro document member
      rcases ih _ member with before | ⟨condition, later, made⟩
      · refine (mem_insert before).symm.imp_right fun here => ?_
        cases here
        exact ⟨clause.2, List.mem_cons_self, rfl⟩
      · exact .inr ⟨condition, List.mem_cons_of_mem _ later, made⟩
  exact (collected filter.clauses [] member).resolve_left (List.not_mem_nil)

/-- The document of conditions on different fields is these conditions, in their order. -/
theorem document_eq_map {filter : Filter} (distinct : filter.IsDistinct) :
    filter.document = filter.clauses.map fun (field, condition) => (field, condition.rendered) := by
  have appended : ∀ (clauses : List (String × Condition)) (document : Document),
      (clauses.map Prod.fst).Nodup → (∀ clause ∈ clauses, document.get? clause.1 = none) →
      clauses.foldl
        (fun document (field, condition) => document.insert field condition.rendered) document =
      document ++ clauses.map fun (field, condition) => (field, condition.rendered) := by
    intro clauses
    induction clauses with
    | nil => exact fun document _ _ => (List.append_nil document).symm
    | cons clause clauses ih =>
      intro document distinct fresh
      obtain ⟨field, condition⟩ := clause
      rw [List.map_cons, List.nodup_cons] at distinct
      have here := Document.insert_of_get?_eq_none (fresh _ List.mem_cons_self) condition.rendered
      have others : ∀ clause ∈ clauses,
          (document.insert field condition.rendered).get? clause.1 = none := by
        intro clause member
        have different : clause.1 ≠ field :=
          fun same => distinct.1 (List.mem_map.mpr ⟨clause, member, same⟩)
        rw [Document.get?_insert_of_ne different, fresh _ (List.mem_cons_of_mem _ member)]
      rw [List.foldl_cons, ih _ distinct.2 others, here, List.append_assoc]
      rfl
  exact appended filter.clauses [] distinct fun _ _ => rfl

/-- What a filter accepts, its document finds. -/
theorem asksAll_of_accepts {filter : Filter} (plain : filter.IsPlain) {document : Document}
    (accepted : filter.accepts document = true) : asksAll filter.document document = true := by
  rw [asksAll, List.all_eq_true]
  rintro ⟨field, asked⟩ member
  obtain ⟨condition, clause, rfl⟩ := exists_clause_of_mem member
  exact (asks_rendered plain clause _).trans (List.all_eq_true.mp accepted _ clause)

/-- Where the fields are distinct, it finds nothing else. -/
theorem asksAll_document {filter : Filter} (plain : filter.IsPlain) (distinct : filter.IsDistinct)
    (document : Document) : asksAll filter.document document = filter.accepts document := by
  rw [asksAll, document_eq_map distinct, List.all_map, accepts, Bool.eq_iff_iff, List.all_eq_true,
    List.all_eq_true]
  exact forall₂_congr fun clause member => Bool.eq_iff_iff.mp (asks_rendered plain member _)

/-! ### The filters of the operations -/

theorem byId_isPlain (id : String) : (byId id).IsPlain := by
  intro field value member
  cases List.mem_singleton.mp member
  rfl

theorem byId_isDistinct (id : String) : (byId id).IsDistinct :=
  List.pairwise_singleton _ _

theorem guard_isDistinct (id : String) (version : Bson) : (guard id version).IsDistinct := by
  have apart : idKey ≠ versionKey := by decide
  simp [IsDistinct, guard, also, byId, apart]

/-- A guard is plain if the version that was read is. -/
theorem guard_isPlain {version : Bson} (plain : version.isOperator = false) (id : String) :
    (guard id version).IsPlain := by
  intro field value member
  rcases List.mem_append.mp member with key | counter
  · exact byId_isPlain id field value key
  · cases List.mem_singleton.mp counter
    exact plain

theorem holders_isPlain (key value : String) (exclude : Option String) :
    (holders key value exclude).IsPlain := by
  intro field asked member
  cases exclude with
  | none =>
    cases List.mem_singleton.mp member
    rfl
  | some id =>
    rcases List.mem_cons.mp member with here | excluded
    · cases here
      rfl
    · cases List.mem_singleton.mp excluded

/-- A document is excluded by its key, so another key has to be asked for. -/
theorem holders_isDistinct {key : String} (value : String) {exclude : Option String}
    (apart : exclude = none ∨ key ≠ idKey) : (holders key value exclude).IsDistinct := by
  cases exclude with
  | none => exact List.pairwise_singleton _ _
  | some id =>
    have different : key ≠ idKey := apart.resolve_left (Option.some_ne_none id)
    simp [IsDistinct, holders, different]

/-- The filter means what its document means, or it is a guard and the version that was read would be
taken for operators. -/
def IsFaithful (filter : Filter) : Prop :=
  filter.IsDistinct ∧
    (filter.IsPlain ∨ ∃ id version, filter = guard id version ∧ version.isOperator = true)

theorem guard_isFaithful (id : String) (version : Bson) : (guard id version).IsFaithful := by
  refine ⟨guard_isDistinct id version, ?_⟩
  cases operator : version.isOperator with
  | false => exact .inl (guard_isPlain operator id)
  | true => exact .inr ⟨id, version, rfl, operator⟩

end Filter

/-- The filter of a request. -/
def Request.filter? : Request → Option Filter
  | .findOne _ filter | .replaceOne _ filter _ | .deleteOne _ filter | .count _ filter => some filter
  | _ => none

/-- The filter of the call, if it has one, is faithful. -/
def Call.IsFaithful (call : Call) : Prop :=
  ∀ filter, call.request.filter? = some filter → filter.IsFaithful

namespace Records

variable {ρ : Type} [Record ρ]

theorem faithful_call {operation : Operation} {request : Request} {filter : Filter}
    (asked : request.filter? = some filter) (faithful : filter.IsFaithful) :
    (StoreProgram.call operation request).Asks Call.IsFaithful := by
  refine asks_call fun other same => ?_
  cases asked.symm.trans same
  exact faithful

theorem faithful_byId (operation : Operation) {request : Request} {id : String}
    (asked : request.filter? = some (.byId id)) :
    (StoreProgram.call operation request).Asks Call.IsFaithful :=
  faithful_call asked ⟨Filter.byId_isDistinct id, .inl (Filter.byId_isPlain id)⟩

theorem faithful_without {operation : Operation} {request : Request}
    (none : request.filter? = none) :
    (StoreProgram.call operation request).Asks Call.IsFaithful := by
  refine asks_call fun filter same => ?_
  cases none.symm.trans same

theorem faithful_ensureUnused (ns : Namespace) (field value : String) {key : String}
    {exclude : Option String} (apart : exclude = none ∨ key ≠ idKey) :
    (ensureUnused ns field key value exclude).Asks Call.IsFaithful := by
  rw [ensureUnused_eq]
  refine (faithful_call rfl ⟨Filter.holders_isDistinct value apart,
    .inl (Filter.holders_isPlain key value exclude)⟩).bind fun holders => ?_
  split
  · exact .fail _
  · exact .done ()

theorem faithful_ensureAllUnused (ns : Namespace) {exclude : Option String}
    {values : List (String × String)}
    (apart : ∀ value ∈ values, exclude = none ∨ value.1 ≠ idKey) :
    (ensureAllUnused ns exclude values).Asks Call.IsFaithful := by
  induction values with
  | nil => exact .done ()
  | cons value values ih =>
    have rest := ih fun other member => apart other (List.mem_cons_of_mem _ member)
    exact (faithful_ensureUnused ns _ _ (apart value List.mem_cons_self)).bind fun _ => rest

/-- No unique field has the name of the key. -/
theorem ne_idKey_of_unique {kind : RecordKind} {record : kind.Carrier} {claim : String × String}
    (listed : claim ∈ Record.uniqueFields record) : claim.1 ≠ idKey := by
  cases kind with
  | user =>
    have claims : Record.uniqueFields record =
        [("email", User.email record), ("phone", User.phone record)] := rfl
    rw [claims] at listed
    rcases List.mem_cons.mp listed with rfl | other
    · show "email" ≠ idKey
      decide
    · rw [List.mem_singleton.mp other]
      show "phone" ≠ idKey
      decide
  | _ => cases listed

theorem faithful_update {kind : RecordKind} (change : kind.Carrier) :
    (update change).Asks Call.IsFaithful := by
  refine (Program.Asks.ofExcept _).bind fun ns => (faithful_byId _ rfl).bind fun found => ?_
  cases found with
  | none => exact .fail _
  | some document =>
    refine (Program.Asks.ofExcept _).bind fun existing => ?_
    refine (faithful_ensureAllUnused ns fun claim member => ?_).bind fun _ => ?_
    · exact .inr (ne_idKey_of_unique (List.mem_filter.mp member).1)
    · refine (faithful_call rfl (Filter.guard_isFaithful _ _)).bind fun replaced => ?_
      split
      · exact .fail _
      · exact .done _

end Records

/-- **The operations on records have faithful filters.** -/
theorem Errand.asks_faithful (errand : Errand) : errand.program.Asks Call.IsFaithful := by
  cases errand with
  | create kind record =>
    exact (Program.Asks.ofExcept _).bind fun ns =>
      (Records.faithful_without rfl).bind fun _ => .done ()
  | get kind template =>
    refine (Program.Asks.ofExcept _).bind fun ns => (Records.faithful_byId _ rfl).bind fun found => ?_
    cases found with
    | none => exact .fail _
    | some document => exact .ofExcept _
  | update kind change => exact Records.faithful_update change
  | delete kind template =>
    refine (Program.Asks.ofExcept _).bind fun ns =>
      (Records.faithful_byId _ rfl).bind fun deleted => ?_
    split
    · exact .fail _
    · exact .done ()
  | list kind template =>
    exact (Program.Asks.ofExcept _).bind fun ns =>
      (Records.faithful_without rfl).bind fun _ => .ofExcept _
  | validate kind record =>
    refine (Program.Asks.ofExcept _).bind fun ns => ?_
    exact (Records.faithful_ensureUnused ns _ _ (.inl rfl)).bind fun _ =>
      Records.faithful_ensureAllUnused ns fun _ _ => .inl rfl
  | sync kind listing membership parent child =>
    exact (Program.Asks.ofExcept _).bind fun ns => Records.faithful_without rfl

/-- **Filters mean what their documents mean.** A document of a filter asks for what its fields demand.
What a plain filter accepts, its document finds, and where no field has two conditions the two are met by
the same documents. Of this kind are the filter for a key, by which the store finds the document whose list
it edits, and the filters of all operations on records, but a guard whose version would be taken for
operators. -/
theorem filters_mean_their_documents :
    (∀ filter document : Document, Filter.asksAll filter document = true ↔
      ∀ field asked, (field, asked) ∈ filter → Demands (document.get? field) asked) ∧
    (∀ filter : Filter, filter.IsPlain → ∀ document, filter.accepts document = true →
      Filter.asksAll filter.document document = true) ∧
    (∀ filter : Filter, filter.IsPlain → filter.IsDistinct → ∀ document,
      Filter.asksAll filter.document document = filter.accepts document) ∧
    (∀ id, (Filter.byId id).IsPlain ∧ (Filter.byId id).IsDistinct) ∧
    ∀ errand : Errand, errand.program.Asks Call.IsFaithful :=
  ⟨Filter.asksAll_iff, fun _ plain _ => Filter.asksAll_of_accepts plain,
    fun _ plain distinct => Filter.asksAll_document plain distinct,
    fun id => ⟨Filter.byId_isPlain id, Filter.byId_isDistinct id⟩, Errand.asks_faithful⟩

/-- Two conditions on one field, of which its document keeps the second. -/
def Filter.twofold : Filter :=
  ⟨[("tags", .eq (.string "algebra")), ("tags", .ne (.string "logic"))]⟩

/-- Who else has an email address is found by filter and document alike. Of two conditions on a field the
document has lost one: it finds all that the filter accepts, and a document without tags besides. -/
theorem filters_mean_their_documents_of_holders :
    let holders := Filter.holders "email" "b@school.org" (some "anna")
    let berta : Document := [(idKey, .string "berta"), ("email", .string "b@school.org")]
    let tagged : Document := [("tags", .array [.string "sets", .string "algebra"])]
    (holders.IsPlain ∧ holders.IsDistinct ∧ Filter.asksAll holders.document berta = true) ∧
      Filter.twofold.IsPlain ∧ Filter.asksAll Filter.twofold.document tagged = true ∧
      Filter.twofold.accepts [] = false ∧ Filter.asksAll Filter.twofold.document [] = true := by
  intro holders berta tagged
  have plain : holders.IsPlain := Filter.holders_isPlain _ _ _
  have distinct : holders.IsDistinct := Filter.holders_isDistinct _ (.inr (by decide))
  have twofold : Filter.twofold.IsPlain := by
    intro field value member
    rcases List.mem_cons.mp member with here | other
    · cases here
      rfl
    · cases List.mem_singleton.mp other
  obtain ⟨_, finds, same, _⟩ := filters_mean_their_documents
  refine ⟨⟨plain, distinct, ?_⟩, twofold, finds _ twofold tagged (by rfl), by rfl, by rfl⟩
  rw [same holders plain distinct berta]
  rfl

end Syllabus
