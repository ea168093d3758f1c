import Facets.Proofs.Except
import Facets.Proofs.Facet.Reference

namespace Facets

namespace Index

variable {index : Index} {settings : Settings} {field : String} {mode : Mode} {facet : Facet}

theorem source_of_facet (opened : index.facet settings field mode = .ok facet) :
    index.source settings field = .ok facet.source := by
  obtain ⟨source, found, rest⟩ := exists_of_bind_ok opened
  cases rest
  exact found

theorem rowOf_of_facet (opened : index.facet settings field mode = .ok facet) :
    facet.rowOf = index.rowOf := by
  obtain ⟨source, _, rest⟩ := exists_of_bind_ok opened
  cases rest
  rfl

/-- All that opening a source can give: no values, numbers, or terms, whose groups are expanded only
in columns of sets. -/
theorem source_cases {source : FacetSource} (opened : index.source settings field = .ok source) :
    (source = .absent ∧ index.column field = .ok none) ∨
    (∃ reader, source = .numeric reader ∧ index.column field = .ok (some (.numeric reader))) ∨
    ∃ column style dictionary expander, source = .enumerated column style dictionary expander ∧
      index.column field = .ok (some (.enumerated column)) ∧
      (expander.isSome → (Column.enumerated column).shape = .enumSet) ∧
      column.dictionary 0 = .ok dictionary := by
  obtain ⟨column?, found, rest⟩ := exists_of_bind_ok opened
  rcases column? with _ | reader | column
  · cases rest
    exact Or.inl ⟨rfl, found⟩
  · cases rest
    exact Or.inr (Or.inl ⟨reader, rfl, found⟩)
  · obtain ⟨dictionary, known, rest⟩ := exists_of_bind_ok rest
    dsimp only at rest
    split at rest
    · rename_i expanding
      obtain ⟨expander, _, rest⟩ := exists_of_bind_ok rest
      cases rest
      exact Or.inr (Or.inr ⟨column, _, dictionary, expander, rfl, found, fun _ => expanding.2, known⟩)
    · cases rest
      exact Or.inr (Or.inr
        ⟨column, _, dictionary, none, rfl, found, (fun some => by cases some), known⟩)

theorem field_of_facet (opened : index.facet settings field mode = .ok facet) :
    facet.field = field := by
  obtain ⟨source, _, rest⟩ := exists_of_bind_ok opened
  cases rest
  rfl

theorem traits_of_facet (opened : index.facet settings field mode = .ok facet) :
    facet.traits = index.traits field := by
  obtain ⟨source, _, rest⟩ := exists_of_bind_ok opened
  cases rest
  rfl

theorem mode_of_facet (opened : index.facet settings field mode = .ok facet) :
    facet.mode = mode := by
  obtain ⟨source, _, rest⟩ := exists_of_bind_ok opened
  cases rest
  rfl

theorem integer_of_facet (opened : index.facet settings field mode = .ok facet) :
    facet.format.integer = (facet.traits.kind == .integer) := by
  obtain ⟨source, _, rest⟩ := exists_of_bind_ok opened
  cases rest
  rfl

/-- Groups are expanded by the index's own dictionaries and at the separator of the settings. -/
theorem expander_of_facet (opened : index.facet settings field mode = .ok facet)
    {column : TermColumn} {style : LabelStyle} {dictionary : Dictionary} {expander : Expander}
    (source : facet.source = .enumerated column style dictionary (some expander)) :
    ∃ groups terms, index.groups field = .ok (some groups) ∧ column.dictionary 1 = .ok terms ∧
      expander = ⟨field, groups, terms, settings.eventSeparator⟩ := by
  have found := source_of_facet opened
  rw [source] at found
  obtain ⟨column?, _, rest⟩ := exists_of_bind_ok found
  rcases column? with _ | reader | held
  · cases rest
  · cases rest
  · obtain ⟨_, _, rest⟩ := exists_of_bind_ok rest
    dsimp only at rest
    split at rest
    · obtain ⟨expander?, expanded, rest⟩ := exists_of_bind_ok rest
      cases rest
      obtain ⟨groups?, known, rest⟩ := exists_of_bind_ok expanded
      cases groups? with
      | none => cases rest
      | some groups =>
        obtain ⟨terms, book, rest⟩ := exists_of_bind_ok rest
        cases rest
        exact ⟨groups, terms, known, book, rfl⟩
    · cases rest

/-- An open facet reads the column of its field. -/
theorem column_of_facet (opened : index.facet settings field mode = .ok facet) :
    index.column field = .ok facet.column? := by
  obtain ⟨source, none⟩ | ⟨reader, source, some⟩ | ⟨column, _, _, _, source, some, _⟩ :=
    source_cases (source_of_facet opened)
  · simp only [Facet.column?, source, none]
  · simp only [Facet.column?, source, some]
  · simp only [Facet.column?, source, some]

/-- Only columns of sets have their groups expanded. -/
theorem shape_of_isEvent (opened : index.facet settings field mode = .ok facet)
    (expanding : facet.isEvent = true) : facet.shape? = some .enumSet := by
  obtain ⟨source, _⟩ | ⟨reader, source, _⟩ | ⟨column, _, _, expander, source, _, sets, _⟩ :=
    source_cases (source_of_facet opened)
  · simp only [Facet.isEvent, source] at expanding
    cases expanding
  · simp only [Facet.isEvent, source] at expanding
    cases expanding
  · simp only [Facet.shape?, Facet.column?, source, Option.map_some, Option.some.injEq]
    cases expander with
    | none =>
      simp only [Facet.isEvent, source] at expanding
      cases expanding
    | some expander => exact sets rfl

/-- Opening a column of sets for events expands the groups of the field. -/
theorem source_of_events {column : TermColumn} {labels groups terms : Dictionary}
    (found : index.column field = .ok (some (.enumerated column)))
    (event : (index.traits field).event = true)
    (sets : (Column.enumerated column).shape = .enumSet)
    (label : column.dictionary 0 = .ok labels) (grouped : index.groups field = .ok (some groups))
    (book : column.dictionary 1 = .ok terms) :
    index.source settings field = .ok (.enumerated column ((index.traits field).labelStyle .enumSet)
      labels (some ⟨field, groups, terms, settings.eventSeparator⟩)) := by
  simp only [source, found, bind, Except.bind, label, event, sets, and_self, if_true, expander?,
    grouped, book]
  rfl

end Index

end Facets
