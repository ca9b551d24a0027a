import DevHub.Transcation.Config

/-!
The white lists after `Update`. The transcation registered under an id was built from
the first entry with that id, its owner. The loop over the white list runs once for
every transcation of the configuration, whatever the length of the list.
-/

namespace DevHub.WhiteList

open Transcations CommServer Config

set_option autoImplicit false

/-- The addresses of an entry; without the member there are none. -/
def configured (entry : Json) : Option (List String) :=
  (entry.member "ipWhiteList").bind fun list =>
    match list with
    | .null => some []
    | .array elements => elements.mapM Json.text
    | _ => none

def owner (entries : List Json) (id : Nat) : Option Json :=
  entries.find? fun entry => entryId entry = some id

/-- Every registered transcation has the addresses of its entry, and an address is
admitted only by transcations it was configured for. -/
structure AsConfigured (Looper : Type) (entries : List Json)
    (transcations : StdMap Nat Transcation) : Prop where
  exact : ∀ id tc, transcations.find? id = some tc →
    ∃ entry, owner entries id = some entry ∧ configured entry = some tc.ipWhiteList
  admits : ∀ (hub : Hub Looper) ip id, hub.transcations = transcations →
    id ∈ getTransIds hub ip →
      ∃ entry ips, owner entries id = some entry ∧ configured entry = some ips ∧ ip ∈ ips

section Loop

variable {host : Host} {value : Json} {size : Nat}

theorem built_id {i : Nat} {entry : Json} {result : Option (Nat × Transcation)}
    (built : buildTranscation host value size i entry = some result) :
    entryId entry = result.map Prod.fst := by
  obtain ⟨transcationId, found, rest⟩ := Option.bind_eq_some_iff.mp built
  rw [entryId, found, Option.bind_some]
  split at rest
  · rename_i absent
    cases rest
    rw [absent]
    rfl
  · rename_i number present
    obtain ⟨name, named, rest⟩ := Option.bind_eq_some_iff.mp rest
    rw [present, named, Option.map_some, Option.bind_some]
    dsimp only at rest ⊢
    split at rest
    · rename_i unknown
      cases rest
      rw [unknown]
      rfl
    · rename_i kind known
      obtain ⟨commands, -, rest⟩ := Option.bind_eq_some_iff.mp rest
      obtain ⟨peripherals, -, rest⟩ := Option.bind_eq_some_iff.mp rest
      obtain ⟨ips, -, rfl⟩ := Option.map_eq_some_iff.mp rest
      rw [known]
      rfl

theorem built_ips {i id : Nat} {entry : Json} {tc : Transcation}
    (built : buildTranscation host value size i entry = some (some (id, tc))) :
    (entry.member "ipWhiteList").bind (ipWhites host size) = some tc.ipWhiteList := by
  obtain ⟨transcationId, -, rest⟩ := Option.bind_eq_some_iff.mp built
  split at rest
  · cases rest
  · obtain ⟨name, -, rest⟩ := Option.bind_eq_some_iff.mp rest
    dsimp only at rest
    split at rest
    · cases rest
    · obtain ⟨commands, -, rest⟩ := Option.bind_eq_some_iff.mp rest
      obtain ⟨peripherals, -, rest⟩ := Option.bind_eq_some_iff.mp rest
      obtain ⟨ips, found, same⟩ := Option.map_eq_some_iff.mp rest
      cases same
      exact found

structure Loaded (host : Host) (value : Json) (size : Nat) (done : List Json)
    (transcations : StdMap Nat Transcation) : Prop where
  owned : ∀ id entry, owner done id = some entry → id ∈ transcations.keys
  built : ∀ id tc, transcations.find? id = some tc → ∃ entry i, owner done id = some entry ∧
    buildTranscation host value size i entry = some (some (id, tc))

theorem owner_append (done : List Json) (entry : Json) (id : Nat) :
    owner (done ++ [entry]) id =
      (owner done id).or (if entryId entry = some id then some entry else none) := by
  rw [owner, List.find?_append, owner]
  by_cases same : entryId entry = some id
  · rw [List.find?_cons_of_pos (by simpa using same), if_pos same]
  · rw [List.find?_cons_of_neg (by simpa using same), if_neg same, List.find?_nil]

theorem update_one_loaded {done : List Json} {entry : Json} {i : Nat}
    {before after : StdMap Nat Transcation} (loaded : Loaded host value size done before)
    (taken : updateOne host value size before (entry, i) = some after) :
    Loaded host value size (done ++ [entry]) after := by
  obtain ⟨result, made, rfl⟩ := Option.map_eq_some_iff.mp taken
  have named := built_id made
  have kept {id : Nat} {tc : Transcation} (found : before.find? id = some tc) :
      ∃ entry' i, owner (done ++ [entry]) id = some entry' ∧
        buildTranscation host value size i entry' = some (some (id, tc)) := by
    obtain ⟨first, position, owns, built⟩ := loaded.built id tc found
    exact ⟨first, position, by rw [owner_append, owns, Option.some_or], built⟩
  cases result with
  | none =>
      constructor
      · intro id other owns
        rw [owner_append, named, Option.map_none, if_neg (by simp), Option.or_none] at owns
        exact loaded.owned id other owns
      · exact fun id tc found => kept found
  | some pair =>
      obtain ⟨added, tc⟩ := pair
      rw [Option.map_some] at named
      dsimp only [addTranscation]
      by_cases present : added ∈ before.keys
      · rw [if_pos present]
        constructor
        · intro id other owns
          rw [owner_append] at owns
          by_cases same : id = added
          · exact same ▸ present
          · rw [named, if_neg (by simpa using Ne.symm same), Option.or_none] at owns
            exact loaded.owned id other owns
        · exact fun id tc found => kept found
      · rw [if_neg present]
        constructor
        · intro id other owns
          rw [StdMap.mem_keys_insert]
          by_cases same : id = added
          · exact Or.inl same
          · rw [owner_append, named, if_neg (by simpa using Ne.symm same), Option.or_none] at owns
            exact Or.inr (loaded.owned id other owns)
        · intro id found registered
          rw [StdMap.find_insert] at registered
          split at registered
          · rename_i same
            cases registered
            have unowned : owner done id = none := by
              by_contra owns
              obtain ⟨first, owns⟩ := Option.ne_none_iff_exists'.mp owns
              exact present (same ▸ loaded.owned id first owns)
            refine ⟨entry, i, ?_, same ▸ made⟩
            rw [owner_append, unowned, named, if_pos (by rw [same]), Option.none_or]
          · exact kept registered

theorem update_all_loaded {done rest : List Json} {start : Nat}
    {before after : StdMap Nat Transcation} (loaded : Loaded host value size done before)
    (taken : (rest.zipIdx start).foldlM (updateOne host value size) before = some after) :
    Loaded host value size (done ++ rest) after := by
  induction rest generalizing done start before with
  | nil =>
      cases taken
      rw [List.append_nil]
      exact loaded
  | cons entry rest ih =>
      obtain ⟨middle, first, later⟩ := Option.bind_eq_some_iff.mp taken
      rw [List.append_cons]
      exact ih (update_one_loaded loaded first) later

end Loop

theorem strings_of_texts {elements : List Json} {ips : List String}
    (texts : elements.mapM Json.text = some ips) : elements = ips.map Json.string := by
  induction elements generalizing ips with
  | nil =>
      cases texts
      rfl
  | cons element rest ih =>
      rw [List.mapM_cons] at texts
      obtain ⟨ip, text, rest_texts⟩ := Option.bind_eq_some_iff.mp texts
      obtain ⟨others, read, same⟩ := Option.bind_eq_some_iff.mp rest_texts
      cases same
      rw [List.map_cons, ← ih read]
      cases element with
      | string value =>
          cases text
          rfl
      | _ => cases text

/-- The loop reads past the end of a short list, where `asString` of null is empty. -/
theorem ip_whites_texts (host : Host) (size : Nat) {elements : List Json} {ips : List String}
    (texts : elements.mapM Json.text = some ips) :
    ipWhites host size (.array elements) =
      some ((List.range size).map fun j => ips.getD j "") := by
  have read : (fun j => ((Json.array elements).element j).bind (asString host)) =
      fun j => some (ips.getD j "") := by
    funext j
    rw [strings_of_texts texts, Json.element, Option.bind_some, List.getD_eq_getElem?_getD,
      List.getD_eq_getElem?_getD, List.getElem?_map]
    cases ips[j]? with
    | none => rfl
    | some ip => rfl
  rw [ipWhites, read]
  exact List.mapM_pure

theorem ip_whites_null (host : Host) (size : Nat) :
    ipWhites host size .null = some ((List.range size).map fun _ => "") := List.mapM_pure

theorem padded_eq_iff (size : Nat) (ips : List String) :
    (List.range size).map (fun j => ips.getD j "") = ips ↔ ips.length = size := by
  constructor
  · intro same
    simpa using (congrArg List.length same).symm
  · intro length
    subst length
    apply List.ext_getElem
    · simp
    · intro j first second
      simp [List.getD_eq_getElem?_getD, second]

theorem loaded_ips {host : Host} {value : Json} {size i id : Nat} {entry : Json}
    {tc : Transcation} {ips : List String}
    (built : buildTranscation host value size i entry = some (some (id, tc)))
    (strings : configured entry = some ips) :
    tc.ipWhiteList = (List.range size).map fun j => ips.getD j "" := by
  obtain ⟨list, found, texts⟩ := Option.bind_eq_some_iff.mp strings
  have whites := built_ips built
  rw [found, Option.bind_some] at whites
  cases list with
  | null =>
      cases texts
      exact Option.some.inj (whites.symm.trans (ip_whites_null host size))
  | array elements => exact Option.some.inj (whites.symm.trans (ip_whites_texts host size texts))
  | _ => cases texts

theorem update_loaded {host : Host} {value : Json} {transcations : StdMap Nat Transcation}
    (runs : serverRuns host value = true) {entries : List Json}
    (listed : arrayTranscation value = some entries)
    (updated : update host value = some transcations) :
    Loaded host value entries.length entries transcations := by
  obtain ⟨port, -, rest⟩ := Option.bind_eq_some_iff.mp updated
  rw [if_pos runs, listed, Option.bind_some] at rest
  have empty : Loaded host value entries.length [] StdMap.empty := by
    constructor
    · intro id entry owns
      cases owns
    · intro id tc found
      cases found
  exact update_all_loaded empty rest

/-- Without a server nothing is registered. -/
theorem idle_as_configured (Looper : Type) (entries : List Json) :
    AsConfigured Looper entries StdMap.empty := by
  constructor
  · intro id tc found
    cases found
  · intro hub ip id same member
    obtain ⟨tc, found, -⟩ := StdMap.mem_keys_where.mp member
    rw [same] at found
    cases found

/-- The white lists are the configured ones exactly when every list that is loaded is as
long as the list of transcations. -/
theorem as_configured_iff_sizes (Looper : Type) {host : Host} {value : Json}
    {transcations : StdMap Nat Transcation} {entries : List Json}
    (listed : arrayTranscation value = some entries)
    (strings : ∀ entry ∈ entries, (configured entry).isSome = true)
    (updated : update host value = some transcations) :
    AsConfigured Looper entries transcations ↔
      (serverRuns host value = true → ∀ id entry ips, owner entries id = some entry →
        configured entry = some ips → ips.length = entries.length) := by
  constructor
  · intro exact runs id entry ips owns texts
    have loaded := update_loaded runs listed updated
    obtain ⟨tc, found⟩ := StdMap.mem_keys.mp (loaded.owned id entry owns)
    obtain ⟨first, i, same, built⟩ := loaded.built id tc found
    cases owns.symm.trans same
    obtain ⟨other, also, equal⟩ := exact.exact id tc found
    cases owns.symm.trans also
    have ipList : tc.ipWhiteList = ips := Option.some.inj (equal.symm.trans texts)
    rw [← padded_eq_iff, ← loaded_ips built texts, ipList]
  · intro sizes
    by_cases runs : serverRuns host value = true
    · have loaded := update_loaded runs listed updated
      have exact (id : Nat) (tc : Transcation) (found : transcations.find? id = some tc) :
          ∃ entry, owner entries id = some entry ∧ configured entry = some tc.ipWhiteList := by
        obtain ⟨entry, i, owns, built⟩ := loaded.built id tc found
        obtain ⟨ips, texts⟩ :=
          Option.isSome_iff_exists.mp (strings entry (List.mem_of_find?_eq_some owns))
        have whole := (padded_eq_iff entries.length ips).mpr (sizes runs id entry ips owns texts)
        exact ⟨entry, owns, by rw [loaded_ips built texts, whole, texts]⟩
      refine ⟨exact, ?_⟩
      intro hub ip id same member
      obtain ⟨tc, found, admitted⟩ := StdMap.mem_keys_where.mp member
      obtain ⟨entry, owns, texts⟩ := exact id tc (same ▸ found)
      exact ⟨entry, _, owns, texts, by simpa [checkIp] using admitted⟩
    · obtain ⟨port, -, rest⟩ := Option.bind_eq_some_iff.mp updated
      rw [if_neg runs] at rest
      cases rest
      exact idle_as_configured Looper entries

def entryOf (id : Int) (name : String) (ips : List String) : Json :=
  .object [("ipWhiteList", .array (ips.map Json.string)), ("name", .string name),
    ("transcationId", .int id)]

def configOf (entries : List Json) : Json :=
  .object [("serverPort", .int 9600), ("transcations", .array entries)]

def quietHost : Host where
  serverStarts := true
  openPeripheral _ _ := -1
  valueToString _ := ""

def balanceAndSolder : List Json :=
  [entryOf 1 "balance" ["10.0.0.5"], entryOf 2 "solder" ["10.0.0.6", "10.0.0.7"]]

/-- The balance also admits a peer without an address. -/
theorem empty_address_admitted :
    ∃ transcations, update quietHost (configOf balanceAndSolder) = some transcations ∧
      ¬ AsConfigured Unit balanceAndSolder transcations := by
  refine ⟨_, rfl, ?_⟩
  intro configured
  obtain ⟨entry, owns, texts⟩ := configured.exact 1 _ rfl
  cases owns
  have lengths := congrArg (Option.map List.length) texts
  revert lengths
  decide

def twoEach : List Json :=
  [entryOf 1 "balance" ["10.0.0.5", "10.0.0.8"], entryOf 2 "solder" ["10.0.0.6", "10.0.0.7"]]

theorem two_each_as_configured :
    ∃ transcations, update quietHost (configOf twoEach) = some transcations ∧
      AsConfigured Unit twoEach transcations := by
  obtain ⟨transcations, updated⟩ :
      ∃ transcations, update quietHost (configOf twoEach) = some transcations := ⟨_, rfl⟩
  refine ⟨transcations, updated, ?_⟩
  apply (as_configured_iff_sizes Unit rfl (by decide) updated).mpr
  intro _ id entry ips owns texts
  have member := List.mem_of_find?_eq_some owns
  rw [twoEach, List.mem_cons, List.mem_singleton] at member
  rcases member with first | second
  · subst first
    cases texts
    rfl
  · subst second
    cases texts
    rfl

end DevHub.WhiteList
