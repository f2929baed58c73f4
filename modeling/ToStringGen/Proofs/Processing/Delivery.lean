import Mathlib.Data.List.DropRight
import ToStringGen.Proofs.Processing.Pool

/-!
# Each name is delivered once

A pool is asked and told things in any order: what is new for a marker, whether something
is, that there is one more declaration, that it is to forget what it has handed out. The
log of these calls tells what the pool hands out between two resets: the annotated
declarations of all markers asked for, and no name twice.
-/

namespace ToStringGen.Pool

/-- Something that a pool is asked or told. -/
inductive Call where
  | find (marker : String)
  | hasPending (marker : String)
  | push (declaration : TypeDeclaration)
  | reset
  deriving DecidableEq, Repr

/-- What a pool answers. -/
inductive Answer where
  | found (declarations : List TypeDeclaration)
  | pending (answer : Bool)
  | done
  deriving DecidableEq, Repr

/-- The declarations that are handed out with an answer. -/
def Answer.declarations : Answer → List TypeDeclaration
  | found declarations => declarations
  | _ => []

/-- The declaration that is added by a call. -/
def Call.pushed? : Call → Option TypeDeclaration
  | push declaration => some declaration
  | _ => none

/-- Answers a call. -/
def answer (pool : Pool) : Call → Answer × Pool
  | .find marker =>
      let (found, pool) := pool.find marker
      (.found found, pool)
  | .hasPending marker => (.pending (pool.hasPending marker), pool)
  | .push declaration => (.done, pool.push declaration)
  | .reset => (.done, pool.reset)

/-- The pool that calls leave. -/
def after (pool : Pool) (calls : List Call) : Pool :=
  calls.foldl (fun pool call => (pool.answer call).2) pool

/-- Calls with their answers, in order. -/
def log (pool : Pool) : List Call → List (Call × Answer)
  | [] => []
  | call :: calls => (call, (pool.answer call).1) :: (pool.answer call).2.log calls

/-- The declarations handed out since the last reset in a log. -/
def handedOut (log : List (Call × Answer)) : List TypeDeclaration :=
  (log.rtakeWhile fun (call, _) => call != .reset).flatMap fun (_, answer) => answer.declarations

/-- The declarations added by calls, in order. -/
def pushed (calls : List Call) : List TypeDeclaration :=
  calls.filterMap Call.pushed?

/-- The names of declarations. -/
def names (declarations : List TypeDeclaration) : List String :=
  declarations.map TypeDeclaration.qualifiedName

/-- Whether a declaration that follows others in a list is new for a marker: it carries the marker,
its name was not handed out before, and none of the others of its name carries the marker. -/
def isNew (marker : String) (old : List String) (earlier : List TypeDeclaration)
    (declaration : TypeDeclaration) : Bool :=
  declaration.isAnnotatedWith marker && !old.contains declaration.qualifiedName &&
    !earlier.any fun other =>
      other.isAnnotatedWith marker && other.qualifiedName == declaration.qualifiedName

/-- The declarations of a list that are new for a marker, in order. -/
def news (marker : String) (old : List String) (declarations : List TypeDeclaration) :
    List TypeDeclaration :=
  (declarations.zipIdx.filter fun (declaration, i) =>
    isNew marker old (declarations.take i) declaration).map Prod.fst

/-- After `before` a marker was asked for, and there was no reset since then. -/
def Asked (calls before : List Call) (marker : String) : Prop :=
  ∃ later, calls = before ++ .find marker :: later ∧ .reset ∉ later

/-- How a pool that starts with some declarations has answered calls, and how it goes on. -/
structure DeliversOnce (declarations : List TypeDeclaration) (calls : List Call) : Prop where
  /-- The declarations are those of the start and those added, in order. -/
  declarations_eq :
    ((ofList declarations).after calls).declarations = declarations ++ pushed calls
  /-- Since the last reset no name was handed out twice, whatever markers were asked for. -/
  nodup : (names (handedOut ((ofList declarations).log calls))).Nodup
  /-- The next call for a marker hands out what is new for it. -/
  find_eq : ∀ marker, (((ofList declarations).after calls).answer (.find marker)).1 =
    .found (news marker (names (handedOut ((ofList declarations).log calls)))
      (declarations ++ pushed calls))
  /-- Something is pending when the next call for the marker hands something out. -/
  hasPending_eq : ∀ marker, (((ofList declarations).after calls).answer (.hasPending marker)).1 =
    .pending !(news marker (names (handedOut ((ofList declarations).log calls)))
      (declarations ++ pushed calls)).isEmpty
  /-- The names handed out since the last reset are those of the declarations that were there
  and carried the marker whenever one was asked for. -/
  mem_names_iff : ∀ name, name ∈ names (handedOut ((ofList declarations).log calls)) ↔
    ∃ before marker, Asked calls before marker ∧
      ∃ declaration ∈ declarations ++ pushed before,
        declaration.isAnnotatedWith marker = true ∧ declaration.qualifiedName = name
  /-- After a reset any calls are answered as by a new pool with the same declarations. -/
  like_new : ∀ later,
    let reset := (ofList declarations).after (calls ++ [.reset])
    let fresh := ofList ((ofList declarations).after calls).declarations
    reset.log later = fresh.log later ∧
      (reset.after later).declarations = (fresh.after later).declarations

variable {pool : Pool} {calls : List Call} {call : Call}

/-- One more call is answered by the pool that the calls before it leave. -/
theorem after_concat (pool : Pool) (calls : List Call) (call : Call) :
    pool.after (calls ++ [call]) = ((pool.after calls).answer call).2 := by
  simp [after]

/-- A reset leaves a new pool with the same declarations. -/
theorem after_reset (pool : Pool) (calls : List Call) :
    pool.after (calls ++ [.reset]) = ofList (pool.after calls).declarations := by
  rw [after_concat]
  rfl

/-- One more call is noted at the end of the log. -/
theorem log_concat (pool : Pool) (calls : List Call) (call : Call) :
    pool.log (calls ++ [call]) = pool.log calls ++ [(call, ((pool.after calls).answer call).1)] := by
  induction calls generalizing pool with
  | nil => rfl
  | cons first calls ih => simp [log, ih, after]

/-- A reset begins anew, and any other call adds what it hands out. -/
theorem handedOut_concat (log : List (Call × Answer)) (call : Call) (answer : Answer) :
    handedOut (log ++ [(call, answer)]) =
      if call = .reset then [] else handedOut log ++ answer.declarations := by
  by_cases hreset : call = .reset
  · rw [handedOut, List.rtakeWhile_concat_neg _ _ _ (by simpa using hreset), if_pos hreset]
    rfl
  · rw [handedOut, List.rtakeWhile_concat_pos _ _ _ (by simpa using hreset), if_neg hreset,
      List.flatMap_append]
    simp [handedOut]

/-- What a call adds to the declarations comes after them. -/
theorem pushed_concat (calls : List Call) (call : Call) :
    pushed (calls ++ [call]) = pushed calls ++ call.pushed?.toList := by
  rw [pushed, List.filterMap_append]
  cases call <;> rfl

/-- The names of more declarations come after those of the others. -/
theorem names_append (declarations more : List TypeDeclaration) :
    names (declarations ++ more) = names declarations ++ names more :=
  List.map_append

/-- A marker was asked for by the last call, or before it unless that is a reset. -/
theorem asked_concat_iff {before : List Call} {marker : String} :
    Asked (calls ++ [call]) before marker ↔
      calls = before ∧ call = .find marker ∨ call ≠ .reset ∧ Asked calls before marker := by
  constructor
  · rintro ⟨later, hcalls, hreset⟩
    rcases List.eq_nil_or_concat later with rfl | ⟨later, last, rfl⟩
    · obtain ⟨hcalls, hlast⟩ := List.append_inj' hcalls rfl
      exact Or.inl ⟨hcalls, List.singleton_inj.mp hlast⟩
    · rw [List.concat_eq_append] at hcalls hreset
      rw [← List.cons_append, ← List.append_assoc] at hcalls
      obtain ⟨hcalls, hlast⟩ := List.append_inj' hcalls rfl
      rw [List.mem_append, not_or, ← hlast, List.mem_singleton] at hreset
      exact Or.inr ⟨Ne.symm hreset.2, later, hcalls, hreset.1⟩
  · rintro (⟨rfl, rfl⟩ | ⟨hcall, later, rfl, hreset⟩)
    · exact ⟨[], rfl, List.not_mem_nil⟩
    · refine ⟨later ++ [call], by simp, ?_⟩
      simp [hreset, Ne.symm hcall]

/-- Whether the last of some declarations is new depends on those before it. -/
theorem news_concat (marker : String) (old : List String) (declarations : List TypeDeclaration)
    (last : TypeDeclaration) :
    news marker old (declarations ++ [last]) =
      news marker old declarations ++ if isNew marker old declarations last then [last] else [] := by
  have hfront : (declarations.zipIdx.filter fun (declaration, i) =>
      isNew marker old ((declarations ++ [last]).take i) declaration) =
        declarations.zipIdx.filter fun (declaration, i) =>
          isNew marker old (declarations.take i) declaration := by
    refine List.filter_congr fun (declaration, i) hmem => ?_
    obtain ⟨_, hlt, _⟩ := List.mem_zipIdx hmem
    dsimp only
    rw [List.take_append_of_le_length (by omega)]
  rw [news, List.zipIdx_append, List.filter_append, List.map_append, hfront, ← news]
  congr 1
  simp only [List.zipIdx_singleton, Nat.zero_add, List.filter_singleton, List.take_left]
  cases isNew marker old declarations last <;> rfl

/-- Of the names handed out before, only which there are matters. -/
theorem news_congr {old other : List String} (h : ∀ name, name ∈ old ↔ name ∈ other)
    (marker : String) (declarations : List TypeDeclaration) :
    news marker old declarations = news marker other declarations := by
  have hcontains : ∀ name, old.contains name = other.contains name := fun name => by
    rw [Bool.eq_iff_iff, List.contains_iff_mem, List.contains_iff_mem, h]
  simp only [news, isNew, hcontains]

/-- A scan of two lists is a scan of the first and then of the second. -/
theorem select_append (marker : String) (front rest : List TypeDeclaration)
    (delivered : List String) :
    select marker (front ++ rest) delivered =
      let (found, delivered) := select marker front delivered
      let (more, delivered) := select marker rest delivered
      (found ++ more, delivered) := by
  induction front generalizing delivered with
  | nil => rfl
  | cons declaration front ih =>
    rw [List.cons_append, select, select]
    split
    · rw [ih]
      rfl
    · exact ih delivered

/-- A scan hands out what is new. -/
theorem select_fst_eq_news (marker : String) (declarations : List TypeDeclaration)
    (delivered : List String) :
    (select marker declarations delivered).1 = news marker delivered declarations := by
  induction declarations using List.reverseRecOn with
  | nil => rfl
  | append_singleton declarations last ih =>
    rw [select_append, news_concat, ← ih]
    have hmet : (select marker declarations delivered).2.contains last.qualifiedName =
        (delivered.contains last.qualifiedName || declarations.any fun other =>
          other.isAnnotatedWith marker && other.qualifiedName == last.qualifiedName) := by
      rw [Bool.eq_iff_iff, List.contains_iff_mem, mem_select_snd]
      simp
    simp only [select, isNew, hmet, Bool.not_or, Bool.and_assoc]
    split <;> rfl

/-- Nothing handed out is new afterwards, and what is new has different names. -/
theorem nodup_names_select (marker : String) (declarations : List TypeDeclaration)
    (delivered : List String) :
    (names (select marker declarations delivered).1).Nodup ∧
      ∀ name ∈ names (select marker declarations delivered).1, name ∉ delivered := by
  rw [select_fst, names]
  constructor
  · exact (nodup_names_firstOfEachName marker declarations).sublist (List.filter_sublist.map _)
  · intro name hmem
    obtain ⟨declaration, hfound, rfl⟩ := List.mem_map.mp hmem
    simpa using (List.mem_filter.mp hfound).2

/-- A scan delivers the names that it hands out. -/
theorem mem_select_snd_iff_mem_names {marker : String} {declarations : List TypeDeclaration}
    {delivered : List String} {name : String} :
    name ∈ (select marker declarations delivered).2 ↔
      name ∈ delivered ∨ name ∈ names (select marker declarations delivered).1 := by
  induction declarations generalizing delivered with
  | nil => simp [select, names]
  | cons declaration rest ih =>
    rw [select]
    split
    · simp only [ih, names, List.mem_cons, List.map_cons]
      tauto
    · exact ih

/-- A pool remembers the declarations handed out since the last reset by their names, which are
different. -/
structure Remembers (pool : Pool) (handed : List TypeDeclaration) : Prop where
  mem_iff : ∀ name, name ∈ pool.delivered ↔ name ∈ names handed
  nodup : (names handed).Nodup

/-- A call for a marker hands out what is new since the last reset. -/
theorem Remembers.find_eq {handed : List TypeDeclaration} (h : pool.Remembers handed)
    (marker : String) :
    (pool.find marker).1 = news marker (names handed) pool.declarations := by
  rw [← news_congr h.mem_iff, ← select_fst_eq_news]
  rfl

/-- Every call keeps the pool up to what was handed out. -/
theorem Remembers.answer {handed : List TypeDeclaration} (h : pool.Remembers handed)
    (call : Call) :
    (pool.answer call).2.Remembers
      (if call = .reset then [] else handed ++ (pool.answer call).1.declarations) := by
  cases call with
  | find marker =>
    obtain ⟨hnodup, hnew⟩ := nodup_names_select marker pool.declarations pool.delivered
    rw [if_neg (by simp)]
    refine ⟨fun name => ?_, ?_⟩
    · rw [names_append, List.mem_append, ← h.mem_iff]
      exact mem_select_snd_iff_mem_names
    · rw [names_append, List.nodup_append]
      refine ⟨h.nodup, hnodup, fun name hmem other hother heq => ?_⟩
      exact hnew other hother ((h.mem_iff other).mpr (heq ▸ hmem))
  | hasPending marker =>
    have hsame : handed ++ (pool.answer (.hasPending marker)).1.declarations = handed :=
      List.append_nil handed
    rw [if_neg (by simp), hsame]
    exact h
  | push declaration =>
    have hsame : handed ++ (pool.answer (.push declaration)).1.declarations = handed :=
      List.append_nil handed
    rw [if_neg (by simp), hsame]
    exact ⟨h.mem_iff, h.nodup⟩
  | reset =>
    rw [if_pos rfl]
    exact ⟨fun name => Iff.rfl, List.nodup_nil⟩

/-- After any calls a pool remembers what it has handed out since the last reset. -/
theorem remembers_after (declarations : List TypeDeclaration) (calls : List Call) :
    ((ofList declarations).after calls).Remembers
      (handedOut ((ofList declarations).log calls)) := by
  induction calls using List.reverseRecOn with
  | nil => exact ⟨fun name => Iff.rfl, List.nodup_nil⟩
  | append_singleton calls call ih =>
    rw [after_concat, log_concat, handedOut_concat]
    exact ih.answer call

/-- A call adds the declaration pushed, and no other changes the declarations. -/
theorem declarations_answer (pool : Pool) (call : Call) :
    (pool.answer call).2.declarations = pool.declarations ++ call.pushed?.toList := by
  cases call <;> simp [answer, find, push, reset, Call.pushed?]

/-- The declarations are those of the start and those pushed since. -/
theorem declarations_after (declarations : List TypeDeclaration) (calls : List Call) :
    ((ofList declarations).after calls).declarations = declarations ++ pushed calls := by
  induction calls using List.reverseRecOn with
  | nil => simp [after, ofList, pushed]
  | append_singleton calls call ih =>
    rw [after_concat, declarations_answer, ih, pushed_concat, List.append_assoc]

/-- The names handed out since the last reset are those of the declarations that carried a marker
when it was asked for. -/
theorem mem_names_handedOut_iff {declarations : List TypeDeclaration} {name : String} :
    name ∈ names (handedOut ((ofList declarations).log calls)) ↔
      ∃ before marker, Asked calls before marker ∧
        ∃ declaration ∈ declarations ++ pushed before,
          declaration.isAnnotatedWith marker = true ∧ declaration.qualifiedName = name := by
  induction calls using List.reverseRecOn with
  | nil => simp [log, handedOut, names, Asked]
  | append_singleton calls call ih =>
    rw [log_concat, handedOut_concat]
    simp only [asked_concat_iff]
    cases call with
    | find marker =>
      have hscan : name ∈ names (handedOut ((ofList declarations).log calls)) ∨
          name ∈ names (((ofList declarations).after calls).find marker).1 ↔
            name ∈ names (handedOut ((ofList declarations).log calls)) ∨
              ∃ declaration ∈ declarations ++ pushed calls,
                declaration.isAnnotatedWith marker = true ∧ declaration.qualifiedName = name := by
        rw [← (remembers_after declarations calls).mem_iff, ← declarations_after]
        exact mem_select_snd_iff_mem_names.symm.trans mem_select_snd
      rw [if_neg (by simp), names_append, List.mem_append]
      refine hscan.trans ?_
      rw [ih]
      constructor
      · rintro (⟨before, other, hasked, hfound⟩ | hfound)
        · exact ⟨before, other, Or.inr ⟨by simp, hasked⟩, hfound⟩
        · exact ⟨calls, marker, Or.inl ⟨rfl, rfl⟩, hfound⟩
      · rintro ⟨before, other, ⟨rfl, hmarker⟩ | ⟨_, hasked⟩, hfound⟩
        · rw [Call.find.injEq] at hmarker
          exact Or.inr (hmarker ▸ hfound)
        · exact Or.inl ⟨before, other, hasked, hfound⟩
    | hasPending marker => simpa [Pool.answer, Answer.declarations] using ih
    | push declaration => simpa [Pool.answer, Answer.declarations] using ih
    | reset => simp [names]

/-- Something is pending for a marker when a scan finds something. -/
theorem any_eq_not_isEmpty_select (marker : String) (declarations : List TypeDeclaration)
    (delivered : List String) :
    (declarations.any fun declaration =>
      declaration.isAnnotatedWith marker && !delivered.contains declaration.qualifiedName) =
        !(select marker declarations delivered).1.isEmpty := by
  induction declarations with
  | nil => rfl
  | cons declaration rest ih =>
    rw [List.any_cons, select]
    split
    · next hnew => rw [hnew, Bool.true_or, List.isEmpty_cons, Bool.not_false]
    · next hold => rw [Bool.eq_false_iff.mpr hold, Bool.false_or, ih]

/-- Something is pending for a marker when something is new for it since the last reset. -/
theorem Remembers.hasPending_eq {handed : List TypeDeclaration} (h : pool.Remembers handed)
    (marker : String) :
    pool.hasPending marker = !(news marker (names handed) pool.declarations).isEmpty := by
  rw [← h.find_eq]
  exact any_eq_not_isEmpty_select marker pool.declarations pool.delivered

/-- However often and for whatever markers a pool is asked, and whatever is added to it meanwhile,
between two resets it hands out every annotated name exactly once: each call hands out, in order,
what is new for its marker, no name is handed out twice, and none is left out that a marker asked
for is carried by. A reset makes the pool a new one with the same declarations. -/
theorem delivers_each_name_once (declarations : List TypeDeclaration) (calls : List Call) :
    DeliversOnce declarations calls where
  declarations_eq := declarations_after declarations calls
  nodup := (remembers_after declarations calls).nodup
  find_eq marker := by
    have hfind := (remembers_after declarations calls).find_eq marker
    rw [declarations_after] at hfind
    exact congrArg Answer.found hfind
  hasPending_eq marker := by
    have hpending := (remembers_after declarations calls).hasPending_eq marker
    rw [declarations_after] at hpending
    exact congrArg Answer.pending hpending
  mem_names_iff _ := mem_names_handedOut_iff
  like_new later := by
    rw [after_reset]
    exact ⟨rfl, rfl⟩

end ToStringGen.Pool
