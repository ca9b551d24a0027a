import DevHub.Plc.Designer

/-!
The loader against the reference extraction, on documents as the designer writes them. The
profile has one list of sections, so a document has one `LineSections`.
-/

namespace DevHub.WholeLine

open Checks XmlTree Station Outline Designer

set_option autoImplicit false

inductive CommentFree : Node → Prop where
  | text (value : String) : CommentFree (.text value)
  | element (value : String) (children : List Node)
      (inner : ∀ child ∈ children, CommentFree child) : CommentFree (.element value children)

/-- No comments, a text in each leaf that the loader reads, nothing but sections below
`LineSections`, and one `Machines` in each of them. -/
structure DesignerDocument (root : Element) : Prop where
  commentFree : ∀ node ∈ root.children, CommentFree node
  texts : ∀ node ∈ root.children, ∀ place leaf, Reaches kindAt .design node place leaf →
    kindAt place leaf.value = some .text →
      ∀ element, leaf.toElement = some element → element.getText.isSome = true
  sections : ∀ lineSections ∈ named "LineSections" root.children,
    ∀ child ∈ lineSections.children,
      ∃ element, child.toElement = some element ∧ element.value = "LineSection"
  machines : ∀ sect ∈ path ["LineSections", "LineSection"] root,
    (named "Machines" sect.children).length = 1

/-- No text stands where the loader takes a node for a field. -/
def Placed (root : Element) : Prop :=
  ∀ node ∈ root.children, ∀ place inner, Reaches kindAt .design node place inner →
    (kindAt place inner.value).isSome = true → inner.toElement.isSome = true

/-- The profile shows what the document says, section by section. -/
def Extracted (nodes : List Node) (root : Element) : Prop :=
  ∃ design, getLineStationDesiginProfile (some nodes) = .ok (some design) ∧
    lineOutline design = some (lineIn root)

theorem readable_of_placed {root : Element} (document : DesignerDocument root)
    (placed : Placed root) : ∀ node ∈ root.children, Readable kindAt .design node := by
  intro node member place inner reached kind known
  have isElement := placed node member place inner reached (by rw [known]; rfl)
  obtain ⟨element, shown⟩ := Option.isSome_iff_exists.mp isElement
  refine ⟨element, shown, ?_⟩
  intro text
  rw [text] at known
  exact document.texts node member place inner reached known element shown

theorem texts_of_readable {node : Node} (readable : Readable kindAt .design node) {place : Place}
    {leaf : Node} (reached : Reaches kindAt .design node place leaf)
    (text : kindAt place leaf.value = some .text) {element : Element}
    (shown : leaf.toElement = some element) : element.getText.isSome = true := by
  obtain ⟨same, found, given⟩ := readable place leaf reached .text text
  rw [shown] at found
  cases found
  exact given rfl

theorem placed_of_readable {root : Element}
    (readable : ∀ node ∈ root.children, Readable kindAt .design node) : Placed root := by
  intro node member place inner reached taken
  obtain ⟨kind, known⟩ := Option.isSome_iff_exists.mp taken
  obtain ⟨element, shown, -⟩ := readable node member place inner reached kind known
  rw [shown]
  rfl

theorem section_loaded {sect : Element} (machines : (named "Machines" sect.children).length = 1) :
    sectionLoaded sect = sectionIn sect := by
  obtain ⟨only, alone⟩ := List.length_eq_one_iff.mp machines
  simp [sectionLoaded, sectionIn, path, alone]

theorem line_extracted {nodes : List Node} {root : Element}
    (rooted : firstChildElement nodes = some root) (document : DesignerDocument root)
    (single : (named "LineSections" root.children).length = 1) (placed : Placed root) :
    Extracted nodes root := by
  obtain ⟨design, loaded⟩ := (profile_iff rooted).mpr (readable_of_placed document placed)
  refine ⟨design, loaded, ?_⟩
  obtain ⟨lineSections, alone⟩ := List.length_eq_one_iff.mp single
  have listed : path ["LineSections", "LineSection"] root =
      named "LineSection" lineSections.children := by
    simp [path, alone]
  have all : named "LineSection" lineSections.children = elements lineSections.children := by
    rw [named, List.filter_eq_self]
    intro sect member
    obtain ⟨child, among, shown⟩ := mem_elements.mp member
    obtain ⟨element, same, value⟩ := document.sections lineSections (by simp [alone]) child among
    rw [shown] at same
    cases same
    exact decide_eq_true value
  rw [design_read (profile_read rooted loaded), alone, lineIn, listed, all]
  simp only [List.getLast?_singleton, Option.map_some, Option.some.injEq]
  apply List.map_congr_left
  intro sect member
  apply section_loaded
  apply document.machines
  rw [listed, all]
  exact member

/-! ### Documents -/

theorem comment_free_element {value : String} {children : List Node} :
    CommentFree (.element value children) ↔ ∀ child ∈ children, CommentFree child :=
  ⟨fun free => by cases free with | element _ _ inner => exact inner, .element value children⟩

def smallLine : Element :=
  deviceRoot
    [.element "Events"
        [.element "StationEventProfile"
          [.element "Name" [.text "AlarmCode"], .element "Action" [.text "AlarmCode"],
            .element "Flag" [.text "DM"], .element "PlcBlockAddress" [.text "5100"],
            .element "EapBlockAddress" [.text "6100"]],
          .element "StationEventProfile"
            [.element "Name" [.text "Weight"], .element "Properties" [.text "NoPlcEvent"]]],
      .element "AlarmCodeList"
        [.element "PlcAlarmInfo"
          [.element "Name" [.text "Door"], .element "WordOffset" [.text "2"],
            .element "BitOffset" [.text "7"]]]]

theorem small_line_readable : ∀ node ∈ smallLine.children, Readable kindAt .design node :=
  (profile_iff (rfl : firstChildElement (documentOf smallLine) = some smallLine)).mp ⟨_, rfl⟩

theorem small_line_extracted : Extracted (documentOf smallLine) smallLine := by
  apply line_extracted rfl
  · constructor
    · simp [smallLine, deviceRoot, comment_free_element, CommentFree.text]
    · intro node member place leaf reached text element shown
      exact texts_of_readable (small_line_readable node member) reached text shown
    · simp [smallLine, deviceRoot, named, elements, Node.toElement]
    · simp [smallLine, deviceRoot, path, named, elements, Node.toElement]
  · rfl
  · exact placed_of_readable small_line_readable

def lineOf (name : String) : Node :=
  .element "LineSections"
    [.element "LineSection" [.element "Name" [.text name], .element "Machines" []]]

def twoLines : Element where
  value := "LineStationDesiginProfile"
  children := [lineOf "GP01", lineOf "GP02"]

def notedLine : Element where
  value := "LineStationDesiginProfile"
  children := [lineOf "GP01", .text "Version"]

theorem line_readable (name : String) : Readable kindAt .design (lineOf name) := by
  have loaded : ∃ design, getLineStationDesiginProfile
      (some [.element "LineStationDesiginProfile" [lineOf name]]) = .ok (some design) := ⟨_, rfl⟩
  exact (profile_iff rfl).mp loaded (lineOf name) List.mem_cons_self

theorem lines_designed {root : Element}
    (lines : ∀ node ∈ root.children, (∃ name, node = lineOf name) ∨ ∃ text, node = .text text) :
    DesignerDocument root := by
  have listed {lineSections : Element}
      (member : lineSections ∈ named "LineSections" root.children) :
      ∃ name, (lineOf name).toElement = some lineSections := by
    obtain ⟨node, among, shown⟩ := mem_elements.mp (List.mem_of_mem_filter member)
    rcases lines node among with ⟨name, rfl⟩ | ⟨text, rfl⟩
    · exact ⟨name, shown⟩
    · cases shown
  constructor
  · intro node member
    rcases lines node member with ⟨name, rfl⟩ | ⟨text, rfl⟩
    · simp [lineOf, comment_free_element, CommentFree.text]
    · exact .text text
  · intro node member place leaf reached text element shown
    rcases lines node member with ⟨name, rfl⟩ | ⟨value, rfl⟩
    · exact texts_of_readable (line_readable name) reached text shown
    · cases reached with
      | here => cases shown
      | inside _ isElement _ _ => cases isElement
  · intro lineSections member child among
    obtain ⟨name, shown⟩ := listed member
    cases shown
    obtain rfl := List.mem_singleton.mp among
    exact ⟨_, rfl, rfl⟩
  · intro sect member
    simp only [path, List.foldl_cons, List.foldl_nil, List.flatMap_singleton,
      List.mem_flatMap] at member
    obtain ⟨lineSections, among, inner⟩ := member
    obtain ⟨name, shown⟩ := listed among
    cases shown
    obtain rfl := List.mem_singleton.mp inner
    rfl

/-- A second `LineSections` replaces the first, and a text with the name of a field is followed
as an element. -/
theorem second_line_replaces :
    (DesignerDocument twoLines ∧ ¬ Extracted (documentOf twoLines) twoLines) ∧
      DesignerDocument notedLine ∧ ¬ Extracted (documentOf notedLine) notedLine := by
  refine ⟨⟨lines_designed ?_, ?_⟩, lines_designed ?_, ?_⟩
  · simp [twoLines]
  · rintro ⟨design, loaded, same⟩
    have rooted : firstChildElement (documentOf twoLines) = some twoLines := rfl
    have last := design_read (profile_read rooted loaded)
    rw [same] at last
    exact absurd last (by decide)
  · simp [notedLine]
  · rintro ⟨design, loaded, -⟩
    have stopped : getLineStationDesiginProfile (some (documentOf notedLine)) =
        .error (.null .element) := rfl
    rw [stopped] at loaded
    cases loaded

end DevHub.WholeLine
