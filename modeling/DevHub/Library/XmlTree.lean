import DevHub.Library.Checks
import Mathlib.Data.List.Induction

/-!
Document trees, and readers that fill a record from them. A reader goes through sibling nodes
and compares the value of each with the names of its fields; a node that has one of the names
is taken for an element. A field is a text of the record, or is itself read by such a loop.
-/

namespace XmlTree

open Checks

set_option autoImplicit false

/-- `other` is a comment, a declaration or anything else, with the text between its marks. -/
inductive Node where
  | element (value : String) (children : List Node)
  | text (value : String)
  | other (value : String)

structure Element where
  value : String
  children : List Node

def Node.value : Node → String
  | .element value _ => value
  | .text value => value
  | .other value => value

def Node.toElement : Node → Option Element
  | .element value children => some { value := value, children := children }
  | _ => none

/-- The text is the first child or none. -/
def Element.getText (element : Element) : Option String :=
  match element.children with
  | .text value :: _ => some value
  | _ => none

def elements (nodes : List Node) : List Element := nodes.filterMap Node.toElement

def firstChildElement (nodes : List Node) : Option Element := (elements nodes).head?

/-- The first child that is an element and every node behind it. -/
def Element.siblings (element : Element) : List Node :=
  element.children.dropWhile fun node => node.toElement.isNone

def named (name : String) (nodes : List Node) : List Element :=
  (elements nodes).filter fun element => element.value = name

/-- The elements that the names lead to, one level for each name. -/
def path (names : List String) (element : Element) : List Element :=
  names.foldl (fun found name => found.flatMap fun element => named name element.children) [element]

theorem to_element_value {node : Node} {element : Element} (same : node.toElement = some element) :
    element.value = node.value := by
  cases node with
  | element value children =>
      cases same
      rfl
  | text value => cases same
  | other value => cases same

theorem elements_siblings (element : Element) :
    elements element.siblings = elements element.children := by
  rw [Element.siblings]
  induction element.children with
  | nil => rfl
  | cons node rest ih =>
      cases shown : node.toElement with
      | none =>
          rw [List.dropWhile_cons_of_pos (by simp [shown]), ih, elements, elements,
            List.filterMap_cons_none shown]
      | some first => rw [List.dropWhile_cons_of_neg (by simp [shown])]

theorem named_siblings (name : String) (element : Element) :
    named name element.siblings = named name element.children := by
  rw [named, elements_siblings, named]

theorem mem_elements {element : Element} {nodes : List Node} :
    element ∈ elements nodes ↔ ∃ node ∈ nodes, node.toElement = some element :=
  List.mem_filterMap

/-! ### Readers -/

/-- A null pointer that is followed: that of a node that is no element, or that of an element
without a text. -/
inductive Null where
  | element
  | text
  deriving DecidableEq

inductive Entry (σ : Type*) where
  | text (set : σ → String → σ)
  | record (read : σ → Element → Except Null σ)

variable {σ τ α : Type*}

def Entry.read (field : Entry σ) (state : σ) (element : Element) : Except Null σ :=
  match field with
  | .text set =>
      match element.getText with
      | none => .error .text
      | some value => .ok (set state value)
  | .record read => read state element

def readField (fields : List (String × Entry σ)) (state : σ) (node : Node) : Except Null σ :=
  match fields.lookup node.value with
  | none => .ok state
  | some field =>
      match node.toElement with
      | none => .error .element
      | some element => field.read state element

def readFields (fields : List (String × Entry σ)) (state : σ) (nodes : List Node) :
    Except Null σ :=
  nodes.foldlM (readField fields) state

/-- The reader that takes every node for an element before it looks at the name. -/
def readElement (fields : List (String × Entry σ)) (state : σ) (node : Node) : Except Null σ :=
  match node.toElement with
  | none => .error .element
  | some element =>
      match fields.lookup element.value with
      | none => .ok state
      | some field => field.read state element

def readElements (fields : List (String × Entry σ)) (state : σ) (nodes : List Node) :
    Except Null σ :=
  nodes.foldlM (readElement fields) state

/-- The loop over the fields of a part of the record. -/
def Entry.inside (part : σ → τ) (put : σ → τ → σ) (fields : List (String × Entry τ)) : Entry σ :=
  .record fun state element => (readFields fields (part state) element.siblings).map (put state)

def Entry.made (make : Element → Except Null τ) (put : σ → τ → σ) : Entry σ :=
  .record fun state element => (make element).map (put state)

/-! ### What a reader comes to -/

/-- What a name stands for at a place: a text, a record whose fields stand at a place of their
own, or an element that is not looked into. -/
inductive Kind (P : Type*) where
  | text
  | record (place : P)
  | plain

section Places

variable {P : Type*} (kindAt : P → String → Option (Kind P))

/-- From a node that is looked at in the first place, the reader comes to the second one. -/
inductive Reaches : P → Node → P → Node → Prop where
  | here (place : P) (node : Node) : Reaches place node place node
  | inside {place next last : P} {node child final : Node} {element : Element}
      (record : kindAt place node.value = some (.record next))
      (shown : node.toElement = some element) (among : child ∈ element.siblings)
      (later : Reaches next child last final) : Reaches place node last final

/-- A node with the name of a field is an element, and has a text if the field is one. -/
def Sound (place : P) (node : Node) : Prop :=
  ∀ kind, kindAt place node.value = some kind →
    ∃ element, node.toElement = some element ∧
      (kind = .text → element.getText.isSome = true)

def Readable (place : P) (node : Node) : Prop :=
  ∀ last final, Reaches kindAt place node last final → Sound kindAt last final

/-- What a field of the kind needs of its element. -/
def Kind.Holds : Kind P → Element → Prop
  | .text, element => element.getText.isSome = true
  | .record next, element => ∀ child ∈ element.siblings, Readable kindAt next child
  | .plain, _ => True

variable {kindAt}

theorem readable_iff {place : P} {node : Node} :
    Readable kindAt place node ↔ ∀ kind, kindAt place node.value = some kind →
      ∃ element, node.toElement = some element ∧ kind.Holds kindAt element := by
  constructor
  · intro readable kind known
    obtain ⟨element, shown, texts⟩ := readable place node (.here place node) kind known
    refine ⟨element, shown, ?_⟩
    cases kind with
    | text => exact texts rfl
    | record next =>
        intro child among last final later
        exact readable last final (.inside known shown among later)
    | plain => trivial
  · intro holds last final reached
    cases reached with
    | here =>
        intro kind known
        obtain ⟨element, shown, held⟩ := holds kind known
        refine ⟨element, shown, ?_⟩
        intro text
        subst text
        exact held
    | inside record shown among later =>
        obtain ⟨element, same, held⟩ := holds _ record
        rw [shown] at same
        cases same
        exact held _ among last final later

variable (kindAt) in
/-- The field ends without a null pointer exactly when the element has what the kind needs. -/
def Entry.Fits (field : Entry σ) (kind : Kind P) : Prop :=
  ∀ state element, (∃ next, field.read state element = .ok next) ↔ kind.Holds kindAt element

variable (kindAt) in
/-- The names of the fields are those of the place, with fields of their kinds. -/
def FieldsFit (fields : List (String × Entry σ)) (place : P) : Prop :=
  ∀ name, Option.Rel (Entry.Fits kindAt) (fields.lookup name) (kindAt place name)

theorem read_field_iff {fields : List (String × Entry σ)} {place : P}
    (fit : FieldsFit kindAt fields place) (state : σ) (node : Node) :
    (∃ next, readField fields state node = .ok next) ↔ Readable kindAt place node := by
  rw [readable_iff, readField]
  have fits := fit node.value
  cases found : fields.lookup node.value with
  | none =>
      rw [found] at fits
      cases known : kindAt place node.value with
      | none => simp
      | some kind =>
          rw [known] at fits
          cases fits
  | some field =>
      rw [found] at fits
      cases known : kindAt place node.value with
      | none =>
          rw [known] at fits
          cases fits
      | some kind =>
          rw [known] at fits
          cases fits with
          | some one =>
              cases shown : node.toElement with
              | none => simp
              | some element => simpa using one state element

theorem read_fields_iff {fields : List (String × Entry σ)} {place : P}
    (fit : FieldsFit kindAt fields place) (state : σ) (nodes : List Node) :
    (∃ last, readFields fields state nodes = .ok last) ↔
      ∀ node ∈ nodes, Readable kindAt place node :=
  fold_succeeds (read_field_iff fit) state nodes

theorem lookup_fits {fields : List (String × Entry σ)} {kinds : List (String × Kind P)}
    (same : List.Forall₂ (fun field kind => field.1 = kind.1 ∧ field.2.Fits kindAt kind.2)
      fields kinds) (name : String) :
    Option.Rel (Entry.Fits kindAt) (fields.lookup name) (kinds.lookup name) := by
  induction same with
  | nil => exact .none
  | @cons field kind fields kinds entry _ ih =>
      obtain ⟨key, fits⟩ := entry
      rw [List.lookup_cons, List.lookup_cons, ← key]
      split
      · exact .some fits
      · exact ih

/-- Where every node is taken for an element, a name without a field is of a plain one. -/
theorem read_elements_iff {fields : List (String × Entry σ)} {kinds : List (String × Kind P)}
    {place : P}
    (fit : ∀ name, Option.Rel (Entry.Fits kindAt) (fields.lookup name) (kinds.lookup name))
    (plain : ∀ name, kindAt place name = some ((kinds.lookup name).getD .plain))
    (state : σ) (nodes : List Node) :
    (∃ last, readElements fields state nodes = .ok last) ↔
      ∀ node ∈ nodes, Readable kindAt place node := by
  apply fold_succeeds
  intro state node
  rw [readable_iff, readElement, plain]
  have fits := fit node.value
  cases shown : node.toElement with
  | none => simp
  | some element =>
      simp only [to_element_value shown]
      cases found : fields.lookup node.value with
      | none =>
          rw [found] at fits
          cases known : kinds.lookup node.value with
          | none => simp [Kind.Holds]
          | some kind =>
              rw [known] at fits
              cases fits
      | some field =>
          rw [found] at fits
          cases known : kinds.lookup node.value with
          | none =>
              rw [known] at fits
              cases fits
          | some kind =>
              rw [known] at fits
              cases fits with
              | some one => simpa using one state element

theorem fits_text (set : σ → String → σ) : (Entry.text set).Fits kindAt .text := by
  intro state element
  rw [Entry.read, Kind.Holds]
  cases element.getText with
  | none => simp
  | some value => simp

theorem fits_plain {read : σ → Element → Except Null σ}
    (ends : ∀ state element, ∃ next, read state element = .ok next) :
    (Entry.record read).Fits kindAt .plain :=
  fun state element => ⟨fun _ => trivial, fun _ => ends state element⟩

theorem fits_inside {part : σ → τ} {put : σ → τ → σ} {fields : List (String × Entry τ)} {place : P}
    (fit : FieldsFit kindAt fields place) :
    (Entry.inside part put fields).Fits kindAt (.record place) := by
  intro state element
  rw [Kind.Holds, ← read_fields_iff fit (part state), Entry.inside, Entry.read]
  cases readFields fields (part state) element.siblings with
  | error null => simp [Except.map]
  | ok last => simp [Except.map]

theorem fits_made {make : Element → Except Null τ} {put : σ → τ → σ} {kind : Kind P}
    (fit : ∀ element, (∃ part, make element = .ok part) ↔ kind.Holds kindAt element) :
    (Entry.made make put).Fits kindAt kind := by
  intro state element
  rw [← fit element, Entry.made, Entry.read]
  cases make element with
  | error null => simp [Except.map]
  | ok part => simp [Except.map]

end Places

/-! ### What a reader changes -/

theorem elements_append (first second : List Node) :
    elements (first ++ second) = elements first ++ elements second :=
  List.filterMap_append

theorem named_append (name : String) (first second : List Node) :
    named name (first ++ second) = named name first ++ named name second := by
  rw [named, elements_append, List.filter_append, named, named]

/-- What `get` shows of the record changes with the element alone. -/
def Entry.Effect (field : Entry σ) (get : σ → α) (change : α → Element → α) : Prop :=
  ∀ state element next, field.read state element = .ok next →
    get next = change (get state) element

theorem effect_text_iff {set : σ → String → σ} {get : σ → α} {change : α → Element → α} :
    (Entry.text set).Effect get change ↔ ∀ state element value, element.getText = some value →
      get (set state value) = change (get state) element := by
  constructor
  · intro effect state element value text
    apply effect state element
    rw [Entry.read, text]
  · intro sets state element next read
    rw [Entry.read] at read
    cases text : element.getText with
    | none =>
        rw [text] at read
        cases read
    | some value =>
        rw [text] at read
        cases read
        exact sets state element value text

theorem inside_effect {part : σ → τ} {put : σ → τ → σ} {fields : List (String × Entry τ)}
    {get : σ → α} {change : α → Element → α}
    (puts : ∀ state element last, readFields fields (part state) element.siblings = .ok last →
      get (put state last) = change (get state) element) :
    (Entry.inside part put fields).Effect get change := by
  intro state element next read
  rw [Entry.inside, Entry.read] at read
  obtain ⟨last, inner, rfl⟩ := map_ok read
  exact puts state element last inner

theorem made_effect {make : Element → Except Null τ} {put : σ → τ → σ} {get : σ → α}
    {change : α → Element → α}
    (puts : ∀ state element part, make element = .ok part →
      get (put state part) = change (get state) element) :
    (Entry.made make put).Effect get change := by
  intro state element next read
  rw [Entry.made, Entry.read] at read
  obtain ⟨part, made, rfl⟩ := map_ok read
  exact puts state element part made

section Frame

variable {fields : List (String × Entry σ)} {get : σ → α} {name : String} {field : Entry σ}
  {change : α → Element → α}

theorem read_field_effect (found : fields.lookup name = some field)
    (own : field.Effect get change)
    (others : ∀ entry ∈ fields, entry.1 ≠ name → entry.2.Effect get fun old _ => old)
    {state next : σ} {node : Node} (read : readField fields state node = .ok next) :
    get next = (named name [node]).foldl change (get state) := by
  rw [readField] at read
  cases known : fields.lookup node.value with
  | none =>
      rw [known] at read
      cases read
      have other : node.value ≠ name := by
        intro same
        rw [same, found] at known
        cases known
      cases shown : node.toElement with
      | none => simp [named, elements, shown]
      | some element => simp [named, elements, shown, to_element_value shown, other]
  | some entry =>
      rw [known] at read
      cases shown : node.toElement with
      | none =>
          rw [shown] at read
          cases read
      | some element =>
          rw [shown] at read
          have value := to_element_value shown
          by_cases same : node.value = name
          · rw [same, found] at known
            cases known
            rw [own state element next read]
            simp [named, elements, shown, value, same]
          · obtain ⟨before, after, split, -⟩ := List.lookup_eq_some_iff.mp known
            have member : (node.value, entry) ∈ fields := by rw [split]; simp
            rw [others _ member same state element next read]
            simp [named, elements, shown, value, same]

/-- The part of a record that one field changes comes from the elements of that name, in
their order. -/
theorem read_fields_effect (found : fields.lookup name = some field)
    (own : field.Effect get change)
    (others : ∀ entry ∈ fields, entry.1 ≠ name → entry.2.Effect get fun old _ => old)
    {state last : σ} {nodes : List Node} (read : readFields fields state nodes = .ok last) :
    get last = (named name nodes).foldl change (get state) := by
  induction nodes generalizing state with
  | nil =>
      cases read
      rfl
  | cons node rest ih =>
      rw [readFields, List.foldlM_cons] at read
      obtain ⟨next, one, later⟩ := bind_ok read
      rw [ih later, read_field_effect found own others one, ← List.foldl_append, ← named_append,
        List.singleton_append]

end Frame

/-- Reading every node as an element only stops more often. -/
theorem read_elements_read {fields : List (String × Entry σ)} {state last : σ} {nodes : List Node}
    (read : readElements fields state nodes = .ok last) :
    readFields fields state nodes = .ok last := by
  induction nodes generalizing state with
  | nil => exact read
  | cons node rest ih =>
      rw [readElements, List.foldlM_cons] at read
      obtain ⟨next, one, later⟩ := bind_ok read
      rw [readElement] at one
      cases shown : node.toElement with
      | none =>
          rw [shown] at one
          cases one
      | some element =>
          simp only [shown, to_element_value shown] at one
          have same : readField fields state node = .ok next := by
            rw [readField, shown]
            exact one
          rw [readFields, List.foldlM_cons, same]
          exact ih later

theorem fold_last {β : Type*} (f : β → α) (start : α) (items : List β) :
    items.foldl (fun _ item => f item) start = (items.getLast?.map f).getD start := by
  induction items using List.reverseRecOn with
  | nil => rfl
  | append_singleton items item _ => simp

end XmlTree
