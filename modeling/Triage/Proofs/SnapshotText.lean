/-
# Triage.Proofs.SnapshotText -- a saved snapshot is loaded as it was

Every reader of a document takes back what its writer gives: a record is found again under the names
of its fields, whichever of them are set (`record?_ofMembers`), and the values under them are texts,
64-bit numbers, states and instants, each read back in full.  A snapshot also has to pass as a value
member by member: its words are within the range of a double (`isFinite_decimal`), and it is nested
less deep than the limit (`isReadable_members`).
Main statement: `saved_reads_back`, for every type that is kept in a file, and for snapshots whether
new or read from a text.
-/
import Triage.Proofs.InstantText
import Triage.Proofs.LeafText
import Triage.Proofs.WrittenJson
import Triage.Snapshot

namespace Triage

open Triage.Text

set_option autoImplicit false

namespace Json

/-! ## Values and records -/

@[simp] theorem text?_ofText (text : String) : (ofText text).text? = some text := by
  simp [ofText, text?, unescape_escape]

@[simp] theorem word?_ofWord (n : UInt64) : (ofWord n).word? = some n := by
  have digits : (decimal n.toNat).all Char.isDigit = true :=
    List.all_eq_true.mpr fun _ member => isDigit_of_mem_decimal member
  simp only [ofWord, word?, digits, if_true, readWord_decimal]

/-- A list is read back if its items are. -/
theorem list?_map {α : Type} {write : α → Json} {read : Json → Option α}
    (back : ∀ value, read (write value) = some value) (values : List α) :
    list? read (.array (values.map write)) = some values := by
  rw [list?]
  induction values with
  | nil => rfl
  | cons value values ih => simp [back, ih]

theorem members?_ofMembers (fields : Record) : (ofMembers fields).members? = some fields := by
  rw [ofMembers, members?]
  induction fields with
  | nil => rfl
  | cons field fields ih => simp [unescape_escape, ih]

/-- A record is picked from its own fields if all their names are known and no two the same. -/
theorem pick?_eq_self {names : List String} {fields : Record}
    (known : ∀ name ∈ fields.map Prod.fst, name ∈ names) (distinct : (fields.map Prod.fst).Nodup) :
    Record.pick? names fields = some fields := by
  have all : (fields.filter fun field => decide (field.1 ∈ names)) = fields := by
    apply List.filter_eq_self.mpr
    intro field member
    exact decide_eq_true (known field.1 (List.mem_map_of_mem member))
  simp only [Record.pick?, all, if_pos distinct]

/-- A record is read back if its fields are some of the names, in their order. -/
theorem record?_ofMembers {names : List String} {fields : Record}
    (known : (fields.map Prod.fst).Sublist names) (distinct : names.Nodup) :
    (ofMembers fields).record? names = some fields := by
  have object : (ofMembers fields).record? names =
      (ofMembers fields).members?.bind (Record.pick? names) := rfl
  rw [object, members?_ofMembers, Option.bind_some,
    pick?_eq_self (fun _ member => known.subset member) (distinct.sublist known)]

/-- A value that is not the null value is read as one that is set. -/
@[simp] theorem nullable?_ofText (text : String) :
    nullable? text? (ofText text) = some (some text) := by
  have set : nullable? text? (ofText text) = (ofText text).text?.map some := rfl
  rw [set, text?_ofText, Option.map_some]

@[simp] theorem nullable?_ofWord (n : UInt64) : nullable? word? (ofWord n) = some (some n) := by
  have set : nullable? word? (ofWord n) = (ofWord n).word?.map some := rfl
  rw [set, word?_ofWord, Option.map_some]

theorem lookup_setField {α : Type} (name key : String) (write : α → Json) (value : Option α) :
    (setField key write value).lookup name = if name = key then value.map write else none := by
  cases value with
  | none => simp [setField]
  | some value =>
      rw [setField, List.lookup_cons, List.lookup_nil]
      by_cases same : name = key
      · simp [same]
      · rw [if_neg same, beq_false_of_ne same]

theorem sublist_setField {α : Type} (name : String) (write : α → Json) (value : Option α) :
    ((setField name write value).map Prod.fst).Sublist [name] := by
  cases value <;> simp [setField]

end Json

open Json

/-! ## Catalogs -/

theorem Label.ofJson?_toJson (label : Label) : Label.ofJson? label.toJson = some label := by
  have record : label.toJson.record? ["name"] = some [("name", ofText label.name)] :=
    record?_ofMembers (.refl _) (by decide)
  simp [Label.ofJson?, record, Record.required?]

theorem Milestone.ofJson?_toJson (milestone : Milestone) :
    Milestone.ofJson? milestone.toJson = some milestone := by
  have record : milestone.toJson.record? ["id", "title", "open"] =
      some [("id", ofWord milestone.id), ("title", ofText milestone.title),
        ("open", .bool milestone.isOpen)] :=
    record?_ofMembers (.refl _) (by decide)
  simp [Milestone.ofJson?, record, Record.required?, Record.optional?, List.lookup_cons, bool?]

theorem User.ofJson?_toJson (user : User) : User.ofJson? user.toJson = some user := by
  have known : (user.members.map Prod.fst).Sublist ["login", "name"] :=
    (sublist_setField "name" ofText user.name).cons_cons "login"
  rw [User.ofJson?, User.toJson, record?_ofMembers known (by decide)]
  obtain ⟨login, name⟩ := user
  cases name <;>
    simp [User.members, Record.required?, Record.optional?, List.lookup_cons, setField]

/-- A catalog is read from its members, whatever stands behind them. -/
theorem Catalog.ofRecord?_members (catalog : Catalog) (more : Record) :
    Catalog.ofRecord? (catalog.members ++ more) = some catalog := by
  simp [Catalog.ofRecord?, Catalog.members, Record.optional?, List.lookup_cons,
    list?_map Label.ofJson?_toJson, list?_map Milestone.ofJson?_toJson,
    list?_map User.ofJson?_toJson]

theorem Catalog.ofJson?_toJson (catalog : Catalog) :
    Catalog.ofJson? catalog.toJson = some catalog := by
  have record : catalog.toJson.record? Catalog.fieldNames = some catalog.members :=
    record?_ofMembers (.refl _) (by decide)
  have back := catalog.ofRecord?_members []
  rw [List.append_nil] at back
  simp [Catalog.ofJson?, record, back]

/-! ## Issues -/

theorem State.ofJson?_toJson (state : State) : State.ofJson? state.toJson = some state := by
  have named : State.ofJson? state.toJson = state.toJson.text?.bind State.ofExactName? := rfl
  rw [named, State.toJson, text?_ofText, Option.bind_some]
  cases state <;> rfl

theorem Instant.ofJson?_toJson (instant : Instant) :
    Instant.ofJson? instant.toJson = some instant := by
  simp [Instant.ofJson?, Instant.toJson, Instant.read?_text]

theorem Issue.ofJson?_toJson (issue : Issue) : Issue.ofJson? issue.toJson = some issue := by
  have known : (issue.members.map Prod.fst).Sublist Issue.fieldNames := by
    have front := List.Sublist.refl ["id", "title", "body", "state", "pull_request", "author"]
    have back := List.Sublist.refl ["labels", "created_at", "updated_at"]
    have assignee := sublist_setField "assignee" ofText issue.assignee
    have milestone := sublist_setField "milestone" ofWord issue.milestone
    rw [Issue.members, List.map_append, List.map_append, List.map_append]
    exact ((front.append assignee).append milestone).append back
  -- Only the fields behind an unset one are not at a fixed place.
  have id : Record.required? issue.members "id" word? = some issue.id := by
    simp [Record.required?, Issue.members]
  have title : Record.required? issue.members "title" text? = some issue.title := by
    simp [Record.required?, Issue.members, List.lookup_cons]
  have body : Record.optional? issue.members "body" "" text? = some issue.body := by
    simp [Record.optional?, Issue.members, List.lookup_cons]
  have state : Record.optional? issue.members "state" .opened State.ofJson? = some issue.state := by
    simp [Record.optional?, Issue.members, List.lookup_cons, State.ofJson?_toJson]
  have isPullRequest : Record.optional? issue.members "pull_request" false bool? =
      some issue.isPullRequest := by
    simp [Record.optional?, Issue.members, List.lookup_cons, bool?]
  have author : Record.required? issue.members "author" text? = some issue.author := by
    simp [Record.required?, Issue.members, List.lookup_cons]
  have assignee : Record.optional? issue.members "assignee" none (nullable? text?) =
      some issue.assignee := by
    cases unset : issue.assignee <;>
      simp [Record.optional?, Issue.members, List.lookup_append, List.lookup_cons,
        lookup_setField, unset]
  have milestone : Record.optional? issue.members "milestone" none (nullable? word?) =
      some issue.milestone := by
    cases unset : issue.milestone <;>
      simp [Record.optional?, Issue.members, List.lookup_append, List.lookup_cons,
        lookup_setField, unset]
  have labels : Record.optional? issue.members "labels" [] (list? text?) = some issue.labels := by
    simp [Record.optional?, Issue.members, List.lookup_append, List.lookup_cons, lookup_setField,
      list?_map text?_ofText]
  have created : Record.required? issue.members "created_at" Instant.ofJson? =
      some issue.createdAt := by
    simp [Record.required?, Issue.members, List.lookup_append, List.lookup_cons, lookup_setField,
      Instant.ofJson?_toJson]
  have updated : Record.required? issue.members "updated_at" Instant.ofJson? =
      some issue.updatedAt := by
    simp [Record.required?, Issue.members, List.lookup_append, List.lookup_cons, lookup_setField,
      Instant.ofJson?_toJson]
  rw [Issue.ofJson?, Issue.toJson, record?_ofMembers known (by decide), Option.bind_eq_bind,
    Option.bind_some, id, title, body, state, isPullRequest, author, assignee, milestone, labels,
    created, updated]
  rfl

/-! ## Members as values -/

namespace Json

theorem le_ofDigitChars (digits : List Char) (front : Nat) :
    front ≤ Nat.ofDigitChars 10 digits front := by
  induction digits generalizing front with
  | nil => simp
  | cons c digits ih =>
      rw [Nat.ofDigitChars_cons]
      exact Nat.le_trans (by omega) (ih _)

/-- Digits that spell a 64-bit number are all appended. -/
theorem appendDigits_eq (digits : List Char) (front : Nat)
    (fits : Nat.ofDigitChars 10 digits front < UInt64.size) :
    appendDigits front digits = (Nat.ofDigitChars 10 digits front, 0) := by
  induction digits generalizing front with
  | nil => rfl
  | cons c digits ih =>
      have next : front * 10 + (c.toNat - 0x30) = 10 * front + (c.toNat - '0'.toNat) := by
        rw [Nat.mul_comm]
        rfl
      rw [Nat.ofDigitChars_cons] at fits ⊢
      have small : 10 * front + (c.toNat - '0'.toNat) < UInt64.size :=
        Nat.lt_of_le_of_lt (le_ofDigitChars digits _) fits
      rw [appendDigits, next, if_pos small, ih _ fits]

/-- Rounding a number to some of its bits does not double it. -/
theorem roundBits_le (bits : Nat) {n : Nat} (positive : n ≠ 0) (room : 0 < bits) :
    roundBits bits n ≤ 2 * n := by
  have unit : Nat.pow 2 (n.log2 + 1 - bits) ≤ n :=
    Nat.le_trans (Nat.pow_le_pow_right (by omega) (by omega)) (Nat.log2_self_le positive)
  have whole : n / Nat.pow 2 (n.log2 + 1 - bits) * Nat.pow 2 (n.log2 + 1 - bits) ≤ n :=
    Nat.div_mul_le_self _ _
  simp only [roundBits]
  split
  · omega
  · rw [Nat.succ_mul]
    omega

theorem inRange_word {n : Nat} (fits : n < UInt64.size) : inRange n 0 = true := by
  by_cases zero : n = 0
  · simp [inRange, zero]
  · have rounded := roundBits_le 53 zero (by omega)
    have one : roundBits 53 1 = 1 := by decide
    have bound : 2 * UInt64.size ≤ infinityBound := by decide +kernel
    have below : roundBits 53 n < infinityBound := by omega
    simp only [inRange, greatestPower]
    simp [one, below]

/-- Digits that spell a 64-bit number spell one within the range of a double. -/
theorem isFinite_of_isDigit {spelling : List Char} (digits : ∀ c ∈ spelling, c.isDigit = true)
    (fits : Nat.ofDigitChars 10 spelling 0 < UInt64.size) : isFinite spelling = true := by
  have taken : spelling.takeWhile Char.isDigit = spelling := by
    have whole : (spelling ++ []).takeWhile Char.isDigit = spelling :=
      (List.takeWhile_append_of_pos digits).trans (List.append_nil spelling)
    rwa [List.append_nil] at whole
  have dropped : spelling.dropWhile Char.isDigit = [] := by
    have whole : (spelling ++ []).dropWhile Char.isDigit = [] :=
      List.dropWhile_append_of_pos digits
    rwa [List.append_nil] at whole
  have within := inRange_word fits
  unfold isFinite
  split
  · next rest => cases digits '-' List.mem_cons_self
  · simp only [taken, dropped, appendDigits_eq _ _ fits, appendDigits]
    exact within

/-- Every 64-bit number is within the range of a double. -/
theorem isFinite_decimal (n : UInt64) : isFinite (decimal n.toNat) = true := by
  have value : Nat.ofDigitChars 10 (decimal n.toNat) 0 = n.toNat :=
    Nat.ofDigitChars_toDigits (by omega) (by omega)
  exact isFinite_of_isDigit (fun _ => isDigit_of_mem_decimal) (by rw [value]; exact n.toNat_lt)

variable {depth : Nat}

@[simp] theorem isReadable_ofText (depth : Nat) (text : String) :
    (ofText text).isReadable depth = true := by
  simp [ofText, isReadable, unescape_escape]

@[simp] theorem isReadable_ofWord (depth : Nat) (n : UInt64) :
    (ofWord n).isReadable depth = true := by
  simp only [ofWord, isReadable, isFinite_decimal]

@[simp] theorem isReadable_bool (depth : Nat) (value : Bool) :
    (Json.bool value).isReadable depth = true := by
  simp only [isReadable]

theorem isReadable_ofMembers {members : List (String × Json)}
    (readable : ∀ member ∈ members, member.2.isReadable depth = true) :
    (ofMembers members).isReadable (depth + 1) = true := by
  simp only [ofMembers, isReadable, List.all_map, List.all_eq_true]
  intro member listed
  simp [unescape_escape, readable member listed]

theorem isReadable_map {α : Type} (write : α → Json) (depth : Nat)
    (readable : ∀ value, (write value).isReadable depth = true) (values : List α) :
    (Json.array (values.map write)).isReadable (depth + 1) = true := by
  simp only [isReadable, List.all_map, List.all_eq_true]
  exact fun value _ => readable value

theorem forall_mem_setField {α : Type} (Good : Json → Prop) {write : α → Json}
    (good : ∀ value, Good (write value)) (name : String) (value : Option α) :
    ∀ member ∈ setField name write value, Good member.2 := by
  cases value <;> simp [setField, good]

end Json

/-- A catalog is nested three containers deep. -/
theorem Catalog.isReadable_members (catalog : Catalog) (depth : Nat) :
    ∀ member ∈ catalog.members, member.2.isReadable (depth + 2) = true := by
  have labels := isReadable_map Label.toJson (depth + 1)
    (fun label => isReadable_ofMembers (by simp)) catalog.labels
  have milestones := isReadable_map Milestone.toJson (depth + 1)
    (fun milestone => isReadable_ofMembers (by simp)) catalog.milestones
  have users := isReadable_map User.toJson (depth + 1)
    (fun user => isReadable_ofMembers (List.forall_mem_cons.mpr
      ⟨isReadable_ofText depth user.login,
        forall_mem_setField (fun json => json.isReadable depth = true)
          (isReadable_ofText depth) "name" user.name⟩)) catalog.users
  simp [Catalog.members, labels, milestones, users]

/-! ## Spelled records -/

theorem Label.spelled_toJson (label : Label) : label.toJson.Spelled :=
  spelled_ofMembers (by simp [spelled_ofText])

theorem Milestone.spelled_toJson (milestone : Milestone) : milestone.toJson.Spelled :=
  spelled_ofMembers (by simp [spelled_ofText, spelled_ofWord, Spelled.bool])

theorem User.spelled_toJson (user : User) : user.toJson.Spelled :=
  spelled_ofMembers (List.forall_mem_cons.mpr
    ⟨spelled_ofText user.login, forall_mem_setField Spelled spelled_ofText "name" user.name⟩)

theorem Catalog.spelled_members (catalog : Catalog) :
    ∀ member ∈ catalog.members, member.2.Spelled := by
  simp [Catalog.members, spelled_array Label.spelled_toJson,
    spelled_array Milestone.spelled_toJson, spelled_array User.spelled_toJson]

theorem Issue.spelled_toJson (issue : Issue) : issue.toJson.Spelled := by
  have assignee := forall_mem_setField Spelled spelled_ofText "assignee" issue.assignee
  have milestone := forall_mem_setField Spelled spelled_ofWord "milestone" issue.milestone
  apply spelled_ofMembers
  rw [Issue.members]
  refine List.forall_mem_append.mpr ⟨List.forall_mem_append.mpr ⟨List.forall_mem_append.mpr
    ⟨?_, assignee⟩, milestone⟩, ?_⟩
  · simp [spelled_ofText, spelled_ofWord, Spelled.bool, State.toJson]
  · simp [spelled_array spelled_ofText, Instant.toJson, spelled_ofText]

/-! ## Snapshots -/

namespace Snapshot

theorem spelled_toJson (snapshot : Snapshot) : snapshot.toJson.Spelled := by
  apply spelled_ofMembers
  refine List.forall_mem_append.mpr ⟨snapshot.catalog.spelled_members, ?_⟩
  simp [spelled_array Issue.spelled_toJson]

theorem ofJson?_toJson (snapshot : Snapshot) : ofJson? snapshot.toJson = some snapshot := by
  obtain ⟨catalog, issues⟩ := snapshot
  have record : Record.pick? ("issues" :: Catalog.fieldNames)
      (catalog.members ++ [("issues", Json.array (issues.map Issue.toJson))]) = some _ :=
    pick?_eq_self (by simp [Catalog.members, Catalog.fieldNames]) (by simp [Catalog.members])
  have found : Record.optional?
      (catalog.members ++ [("issues", Json.array (issues.map Issue.toJson))]) "issues" []
      (list? Issue.ofJson?) = some issues := by
    simp [Record.optional?, Catalog.members, List.lookup_cons, list?_map Issue.ofJson?_toJson]
  rw [ofJson?, toJson, members?_ofMembers, Option.bind_eq_bind, Option.bind_some]
  refine Option.bind_eq_some_iff.mpr ⟨(), if_pos (List.all_eq_true.mpr ?_), ?_⟩
  · intro member listed
    rw [Bool.or_eq_true, decide_eq_true_eq]
    rcases List.mem_append.mp listed with entry | list
    · exact .inr (catalog.isReadable_members 124 member entry)
    · exact .inl (congrArg Prod.fst (List.mem_singleton.mp list))
  · rw [record, Option.bind_eq_bind, Option.bind_some, catalog.ofRecord?_members, found]
    rfl

/-- A written snapshot is read back. -/
theorem read?_text (snapshot : Snapshot) : read? snapshot.text = some snapshot := by
  have whole := read?_pretty snapshot.spelled_toJson 1
  have newline : "\n".toList = List.replicate 1 '\n' := by decide
  rw [read?, text, String.toList_append, newline, whole, Option.bind_some, ofJson?_toJson]

end Snapshot

/-- Every value is read back from the indented text of its document. -/
def RoundTrips {α : Type} (write : α → Json) (read : Json → Option α) : Prop :=
  ∀ value, (Json.read? (write value).pretty.toList).bind read = some value

theorem RoundTrips.of_spelled {α : Type} {write : α → Json} {read : Json → Option α}
    (spelled : ∀ value, (write value).Spelled) (back : ∀ value, read (write value) = some value) :
    RoundTrips write read := by
  intro value
  have whole := read?_pretty (spelled value) 0
  rw [List.replicate_zero, List.append_nil] at whole
  rw [whole, Option.bind_some, back]

/-- Whatever is saved is loaded as it was: every snapshot from the text of its file, and every
issue, label, milestone, user, catalog and state from its own text.  Hence a snapshot that was
loaded from any text is the same after it has been saved and loaded again. -/
theorem saved_reads_back :
    (∀ snapshot : Snapshot, Snapshot.read? snapshot.text = some snapshot) ∧
    RoundTrips Issue.toJson Issue.ofJson? ∧ RoundTrips Label.toJson Label.ofJson? ∧
    RoundTrips Milestone.toJson Milestone.ofJson? ∧ RoundTrips User.toJson User.ofJson? ∧
    RoundTrips Catalog.toJson Catalog.ofJson? ∧ RoundTrips State.toJson State.ofJson? ∧
    ∀ text, (Snapshot.read? text).bind (fun snapshot => Snapshot.read? snapshot.text) =
      Snapshot.read? text := by
  refine ⟨Snapshot.read?_text, .of_spelled Issue.spelled_toJson Issue.ofJson?_toJson,
    .of_spelled Label.spelled_toJson Label.ofJson?_toJson,
    .of_spelled Milestone.spelled_toJson Milestone.ofJson?_toJson,
    .of_spelled User.spelled_toJson User.ofJson?_toJson,
    .of_spelled (fun catalog => spelled_ofMembers catalog.spelled_members) Catalog.ofJson?_toJson,
    .of_spelled (fun state => spelled_ofText state.name) State.ofJson?_toJson, ?_⟩
  intro text
  cases Snapshot.read? text with
  | none => rfl
  | some snapshot => exact Snapshot.read?_text snapshot

end Triage
