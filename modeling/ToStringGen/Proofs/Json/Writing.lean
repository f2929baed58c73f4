import ToStringGen.Json
import ToStringGen.Proofs.Json.Lexing
import ToStringGen.Proofs.Rewriting

/-!
# Reading written JSON

Data that are written are read back as they were. While the tokens of a value are read the
containers around it stay as they are, so that what holds of the elements of a container
holds of the container.
-/

namespace ToStringGen.Json

open Text (Bytes)

mutual

/-- The tokens of a value are read as that value, which is handed to the container around it. -/
theorem foldlM_step_tokensOf (closable : Bool) (stack : List Frame) :
    ∀ datum, (tokensOf datum).foldlM Reader.step (.value closable stack) =
      some (.deliver datum stack)
  | .null | .bool _ | .int _ | .real _ | .moment | .text _ | .list [] | .table [] => by
      cases closable <;> rfl
  | .list (item :: items) => by
      have hopen : Reader.step (.value closable stack) .openList =
          some (.value true (.list [] :: stack)) := by cases closable <;> rfl
      rw [tokensOf, foldlM_cons_of_eq_some hopen,
        foldlM_append_of_eq_some (foldlM_step_tokensOf ..), Reader.deliver,
        foldlM_append_of_eq_some (foldlM_step_furtherItems ..)]
      simp [Reader.step]
  | .table ((key, value) :: entries) => by
      have hopen : Reader.step (.value closable stack) .openTable =
          some (.key true [] stack) := by cases closable <;> rfl
      have hkey : Reader.step (.key true [] stack) (.text key) =
          some (.colon [] key stack) := rfl
      have hcolon : Reader.step (.colon [] key stack) .colon =
          some (.value false (.table [] key :: stack)) := rfl
      rw [tokensOf, foldlM_cons_of_eq_some hopen, foldlM_cons_of_eq_some hkey,
        foldlM_cons_of_eq_some hcolon, foldlM_append_of_eq_some (foldlM_step_tokensOf ..),
        Reader.deliver, foldlM_append_of_eq_some (foldlM_step_furtherEntries ..)]
      simp [Reader.step]

/-- The further elements of a list are read onto those before them. -/
theorem foldlM_step_furtherItems (done : List Datum) (stack : List Frame) :
    ∀ items, (furtherItems items).foldlM Reader.step (.listMore done stack) =
      some (.listMore (items.reverse ++ done) stack)
  | [] => rfl
  | item :: items => by
      have hcomma : Reader.step (.listMore done stack) .comma =
          some (.value false (.list done :: stack)) := rfl
      rw [furtherItems, foldlM_cons_of_eq_some hcomma,
        foldlM_append_of_eq_some (foldlM_step_tokensOf ..), Reader.deliver,
        foldlM_step_furtherItems]
      simp

/-- The further entries of a table are read onto those before them. -/
theorem foldlM_step_furtherEntries (done : List (Option String × Datum)) (stack : List Frame) :
    ∀ entries, (furtherEntries entries).foldlM Reader.step (.tableMore done stack) =
      some (.tableMore (entries.reverse ++ done) stack)
  | [] => rfl
  | (key, value) :: entries => by
      have hcomma : Reader.step (.tableMore done stack) .comma =
          some (.key false done stack) := rfl
      have hkey : Reader.step (.key false done stack) (.text key) =
          some (.colon done key stack) := rfl
      have hcolon : Reader.step (.colon done key stack) .colon =
          some (.value false (.table done key :: stack)) := rfl
      rw [furtherEntries, foldlM_cons_of_eq_some hcomma, foldlM_cons_of_eq_some hkey,
        foldlM_cons_of_eq_some hcolon, foldlM_append_of_eq_some (foldlM_step_tokensOf ..),
        Reader.deliver, foldlM_step_furtherEntries]
      simp

end

/-- What is written of data is read as those data. -/
theorem parse?_of_write? {datum : Datum} {text : Bytes} (h : write? datum = some text) :
    parse? text = some datum := by
  obtain ⟨written, hwritten, rfl⟩ := Option.map_eq_some_iff.mp h
  rw [parse?, tokens?_flatten hwritten, Option.bind_some, foldlM_step_tokensOf]
  rfl

/-- Data made of texts, lists, and tables in which no key is repeated. -/
inductive IsWritable : Datum → Prop
  | text (content : String) : IsWritable (.text (some content))
  | list {items : List Datum} (hitems : ∀ item ∈ items, IsWritable item) :
      IsWritable (.list items)
  | table {entries : List (Option String × Datum)} (honce : (entries.map Prod.fst).Nodup)
      (hkeys : ∀ entry ∈ entries, entry.1.isSome = true)
      (hvalues : ∀ entry ∈ entries, IsWritable entry.2) : IsWritable (.table entries)

/-- Data that can be written can be written differently. -/
theorem IsWritable.of_rewrites {defaults : List (String × Datum)} {datum datum' : Datum}
    (hdatum : IsWritable datum) (h : Datum.Rewrites defaults datum datum') : IsWritable datum' := by
  induction h with
  | reorder hperm =>
    cases hdatum with
    | table honce hkeys hvalues =>
      exact .table ((hperm.map Prod.fst).nodup_iff.mp honce)
        (fun entry hentry => hkeys entry (hperm.mem_iff.mpr hentry))
        fun entry hentry => hvalues entry (hperm.mem_iff.mpr hentry)
  | @leaveOut before after key value _ =>
    cases hdatum with
    | table honce hkeys hvalues =>
      simp only [List.forall_mem_append, List.forall_mem_cons] at hkeys hvalues
      have hfewer := (List.sublist_cons_self (some key, value) after).append_left before
      exact .table (honce.sublist (hfewer.map Prod.fst))
        (List.forall_mem_append.mpr ⟨hkeys.1, hkeys.2.2⟩)
        (List.forall_mem_append.mpr ⟨hvalues.1, hvalues.2.2⟩)
  | element before after _ ih =>
    cases hdatum with
    | list hitems =>
      simp only [List.forall_mem_append, List.forall_mem_cons] at hitems
      refine .list ?_
      simp only [List.forall_mem_append, List.forall_mem_cons]
      exact ⟨hitems.1, ih hitems.2.1, hitems.2.2⟩
  | entry before after key _ ih =>
    cases hdatum with
    | table honce hkeys hvalues =>
      simp only [List.forall_mem_append, List.forall_mem_cons] at hkeys hvalues
      refine .table (by simpa using honce) ?_ ?_ <;>
        simp only [List.forall_mem_append, List.forall_mem_cons]
      · exact hkeys
      · exact ⟨hvalues.1, ih hvalues.2.1, hvalues.2.2⟩

/-- Lists can be written if their elements can. -/
theorem isWritable_map {α : Type} {toDatum : α → Datum}
    (h : ∀ value, IsWritable (toDatum value)) (values : List α) :
    IsWritable (.list (values.map toDatum)) :=
  .list (List.forall_mem_map.mpr fun value _ => h value)

/-- A way to print JSON is faithful if data that can be written are read from what it prints of
them. -/
def IsFaithful (print : Datum → Option Bytes) : Prop :=
  ∀ datum, IsWritable datum → ∃ text, print datum = some text ∧ parse? text = some datum

/-- Tokens that have a form each are written. -/
theorem exists_mapM_bytes? {tokens : List Token}
    (h : ∀ token ∈ tokens, token.bytes?.isSome = true) :
    ∃ written, tokens.mapM Token.bytes? = some written := by
  induction tokens with
  | nil => exact ⟨[], rfl⟩
  | cons token tokens ih =>
    obtain ⟨bytes, hbytes⟩ := Option.isSome_iff_exists.mp (h token List.mem_cons_self)
    obtain ⟨rest, hrest⟩ := ih fun token htoken => h token (List.mem_cons_of_mem _ htoken)
    exact ⟨bytes :: rest, by rw [List.mapM_cons, hbytes, hrest]; rfl⟩

/-- The tokens of further elements have a form each if those of the elements do. -/
theorem isSome_bytes?_furtherItems {items : List Datum}
    (h : ∀ item ∈ items, ∀ token ∈ tokensOf item, token.bytes?.isSome = true) :
    ∀ token ∈ furtherItems items, token.bytes?.isSome = true := by
  induction items with
  | nil => simp [furtherItems]
  | cons item items ih =>
    simp only [furtherItems, List.forall_mem_cons, List.forall_mem_append] at h ⊢
    exact ⟨rfl, h.1, ih h.2⟩

/-- The tokens of further entries have a form each if those of the values do. -/
theorem isSome_bytes?_furtherEntries {entries : List (Option String × Datum)}
    (hkeys : ∀ entry ∈ entries, entry.1.isSome = true)
    (h : ∀ entry ∈ entries, ∀ token ∈ tokensOf entry.2, token.bytes?.isSome = true) :
    ∀ token ∈ furtherEntries entries, token.bytes?.isSome = true := by
  induction entries with
  | nil => simp [furtherEntries]
  | cons entry entries ih =>
    obtain ⟨key, value⟩ := entry
    simp only [furtherEntries, List.forall_mem_cons, List.forall_mem_append] at hkeys h ⊢
    refine ⟨rfl, ?_, rfl, h.1, ih hkeys.2 h.2⟩
    simpa [Token.bytes?] using hkeys.1

/-- Every token of writable data has a form. -/
theorem IsWritable.isSome_bytes? {datum : Datum} (h : IsWritable datum) :
    ∀ token ∈ tokensOf datum, token.bytes?.isSome = true := by
  induction h with
  | text content => simp [tokensOf, Token.bytes?]
  | @list items _ ih =>
    cases items with
    | nil => simp [tokensOf, Token.bytes?]
    | cons item items =>
      simp only [tokensOf, List.forall_mem_cons, List.forall_mem_append] at ih ⊢
      exact ⟨rfl, ih.1, isSome_bytes?_furtherItems ih.2, by simp [Token.bytes?]⟩
  | @table entries _ hkeys _ ih =>
    cases entries with
    | nil => simp [tokensOf, Token.bytes?]
    | cons entry entries =>
      obtain ⟨key, value⟩ := entry
      simp only [tokensOf, List.forall_mem_cons, List.forall_mem_append] at hkeys ih ⊢
      refine ⟨rfl, ?_, rfl, ih.1, isSome_bytes?_furtherEntries hkeys.2 ih.2, ?_⟩
      · simpa [Token.bytes?] using hkeys.1
      · simp [Token.bytes?]

/-- The writer is faithful. -/
theorem write?_isFaithful : IsFaithful write? := by
  intro datum hdatum
  obtain ⟨written, hwritten⟩ := exists_mapM_bytes? hdatum.isSome_bytes?
  have hwrite : write? datum = some written.flatten := by rw [write?, hwritten]; rfl
  exact ⟨written.flatten, hwrite, parse?_of_write? hwrite⟩

end ToStringGen.Json
