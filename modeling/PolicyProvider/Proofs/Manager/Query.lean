import PolicyProvider.Manager.Query
import PolicyProvider.Proofs.Entries
import PolicyProvider.Proofs.Text.Percent
/-!
# Query — the parameters of an address are read back

`read?` reads the end of an address: behind the question mark the pieces between ampersands, each a name and an encoded
value with the first equals sign between them.  As no value has an ampersand when it is encoded, parameters are read
back as they were added, if none of their names has one of the two signs (`read?_text`), however they were put together
(`Assembly`).  A listing may ask for eight things, each under a name of its own (`AttributeQuery.words`), and has those
that it asks for as its parameters (`AttributeQuery.params_eq`).
-/
namespace PolicyProvider
namespace QueryParams

def pair? (piece : List Char) : Option (String × String) :=
  match piece.dropWhile (· ≠ '=') with
  | [] => none
  | _ :: value => (Percent.decode? value).map fun text => (String.ofList (piece.takeWhile (· ≠ '=')), text)

/-- **The parameters that the end of an address writes.** -/
def read? : List Char → Option QueryParams
  | [] => some {}
  | '?' :: rest => ((rest.splitOn '&').mapM pair?).map .mk
  | _ => none

/-- That no name has a sign that divides a query. -/
def Plain (q : QueryParams) : Prop := ∀ p ∈ q.params, '=' ∉ p.1.toList ∧ '&' ∉ p.1.toList

def piece (p : String × String) : String := p.1 ++ "=" ++ Percent.encode p.2

theorem toList_piece (p : String × String) : (piece p).toList = p.1.toList ++ '=' :: (Percent.encode p.2).toList := by
  unfold piece
  rw [String.toList_append, String.toList_append, List.append_assoc]
  rfl

theorem pair?_piece {p : String × String} (h : '=' ∉ p.1.toList) : pair? (piece p).toList = some p := by
  have hname : ∀ c ∈ p.1.toList, decide (c ≠ '=') = true := by
    intro c hc
    refine decide_eq_true ?_
    rintro rfl
    exact h hc
  unfold pair?
  rw [toList_piece, List.dropWhile_append_of_pos hname, List.takeWhile_append_of_pos hname,
    List.dropWhile_cons_of_neg (by decide), List.takeWhile_cons_of_neg (by decide)]
  simp only [Percent.decode?_encode, Option.map_some, List.append_nil, String.ofList_toList]

theorem ampersand_not_mem_piece {p : String × String} (h : '&' ∉ p.1.toList) : '&' ∉ (piece p).toList := by
  rw [toList_piece, List.mem_append, List.mem_cons, not_or, not_or]
  exact ⟨h, by decide, Percent.not_mem_encode (by decide) (by decide) p.2⟩

theorem splitOn_pieces {ps : List (String × String)} (hne : ps ≠ []) (h : ∀ p ∈ ps, '&' ∉ p.1.toList) :
    ("&".intercalate (ps.map piece)).toList.splitOn '&' = ps.map fun p => (piece p).toList := by
  have hpieces : ∀ l ∈ ps.map fun p => (piece p).toList, '&' ∉ l := by
    intro l hl
    obtain ⟨p, hp, rfl⟩ := List.mem_map.1 hl
    exact ampersand_not_mem_piece (h p hp)
  rw [String.toList_intercalate, List.map_map]
  exact List.splitOn_intercalate '&' hpieces (by simpa using hne)

theorem mapM_pair?_pieces {ps : List (String × String)} (h : ∀ p ∈ ps, '=' ∉ p.1.toList) :
    (ps.map fun p => (piece p).toList).mapM pair? = some ps := by
  induction ps with
  | nil => rfl
  | cons p ps ih =>
    have hp := pair?_piece (h p (List.mem_cons_self ..))
    have hps := ih fun q hq => h q (List.mem_cons_of_mem p hq)
    rw [List.map_cons, List.mapM_cons, hp, hps]
    rfl

/-- **Parameters are read back as they were added**, whatever characters their values have. -/
theorem read?_text {q : QueryParams} (h : q.Plain) : read? q.text.toList = some q := by
  obtain ⟨ps⟩ := q
  unfold text isEmpty
  by_cases hps : ps = []
  · subst hps
    rfl
  have hsplit := splitOn_pieces hps fun p hp => (h p hp).2
  have hread := mapM_pair?_pieces fun p hp => (h p hp).1
  rw [if_neg (by simpa using hps), String.toList_append]
  change ((("&".intercalate (ps.map piece)).toList.splitOn '&').mapM pair?).map QueryParams.mk = _
  rw [hsplit, hread, Option.map_some]

/-! ## Putting parameters together -/

/-- How parameters are put together: one by one, with a value or without, and others of them at the end. -/
inductive Assembly where
  | start
  | add (before : Assembly) (name value : String)
  | addOptional (before : Assembly) (name : String) (value : Option String)
  | extend (before other : Assembly)

namespace Assembly

def params : Assembly → QueryParams
  | .start => {}
  | .add before name value => before.params.add name value
  | .addOptional before name value => before.params.addOptional name value
  | .extend before other => before.params.extend other.params

/-- The names that were given a value, with their values, in the order in which they were given. -/
def given : Assembly → List (String × String)
  | .start => []
  | .add before name value => before.given ++ [(name, value)]
  | .addOptional before name value => before.given ++ Entries.present [(name, value)]
  | .extend before other => before.given ++ other.given

end Assembly

theorem addOptional_eq (q : QueryParams) (name : String) (value : Option String) :
    q.addOptional name value = ⟨q.params ++ Entries.present [(name, value)]⟩ := by
  cases value with
  | none => exact congrArg QueryParams.mk (List.append_nil _).symm
  | some value => rfl

theorem Assembly.params_eq (a : Assembly) : a.params = ⟨a.given⟩ := by
  induction a with
  | start => rfl
  | add before name value ih => rw [params, ih, QueryParams.add, given]
  | addOptional before name value ih => rw [params, ih, addOptional_eq, given]
  | extend before other ih ih' => rw [params, ih, ih', QueryParams.extend, given]

end QueryParams

/-! ## Listings -/

namespace AttributeQuery

/-- What a listing may ask for, each under the name of its parameter. -/
def words (q : AttributeQuery) : List (String × Option String) :=
  [("attribute_key", q.key), ("attribute_source", q.source), ("cursor", q.paging.cursor),
    ("include_mark_for_delete_objects", q.paging.includeMarkedForDelete.map boolParam),
    ("included_fields", q.paging.includedFields), ("page_size", q.paging.pageSize.map toString),
    ("sort_ascending", q.paging.sortAscending.map boolParam), ("sort_by", q.paging.sortBy)]

def names : List String :=
  ["attribute_key", "attribute_source", "cursor", "include_mark_for_delete_objects", "included_fields", "page_size",
    "sort_ascending", "sort_by"]

theorem names_words (q : AttributeQuery) : q.words.map (·.1) = names := rfl

theorem nodup_names_words (q : AttributeQuery) : (q.words.map (·.1)).Nodup := by
  rw [names_words]
  decide

theorem params_eq (q : AttributeQuery) : q.params = ⟨Entries.present q.words⟩ := by
  unfold params Paging.params QueryParams.extend
  simp only [QueryParams.addOptional_eq, List.nil_append, List.append_assoc, ← Entries.present_append]
  rfl

theorem plain_params (q : AttributeQuery) : q.params.Plain := by
  have hnames : ∀ name ∈ names, '=' ∉ name.toList ∧ '&' ∉ name.toList := by decide
  rw [params_eq]
  intro p hp
  exact hnames p.1 (q.names_words ▸ Entries.name_mem_of_mem_present hp)

end AttributeQuery
end PolicyProvider
