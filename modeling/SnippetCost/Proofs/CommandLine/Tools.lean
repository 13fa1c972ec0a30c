import SnippetCost.CommandLine.Listing
import SnippetCost.Proofs.Analysis.Stages
import SnippetCost.Proofs.Text.Utf8
import SnippetCost.Proofs.Toolchain.Lookup

/-!
# The command that lists the tools

A tool that is found is asked for its version.  That it cannot be started, takes too long or says nothing leaves the
version out; but if what it says on either of its streams is no text, or it has a name that no process can be started by,
the command breaks down.

* **`World.versionOf_toolVersion`**: the version of a tool, by how the process that was asked ended;
* **`Session.listed_listTools`**: the whole command, for every session: a table of what was found, and the code of
  success exactly if both tools were; unless a tool that was found does not answer in text, or the console makes no sense
  of the markup in the table (`Session.Lists`), and then there is neither.

Which texts in the table can be taken for markup is said elsewhere (`texts_in_tables`).
-/

namespace SnippetCost

open Text

/-- What is known of a computation goes on into the next one. -/
theorem Traced.bind_eq {α β : Type} {x : Traced α} {value : α} {events : List Event} (h : x = ⟨value, events⟩)
    (f : α → Traced β) : x >>= f = ⟨(f value).value, events ++ (f value).events⟩ := by
  subst h
  rfl

/-! ## The version of one tool -/

/-- The version of a tool, by how the process ended that was asked for it. -/
inductive VersionOf : Ending → Except VersionFault (Option String) → Prop where
  /-- There is no such process. -/
  | refused {fault : CallFault} : VersionOf (.refused fault) (.error (.refused fault))
  | unstarted {e : OsError} : VersionOf (.unstarted e) (.ok none)
  | expired {out err : Option (List UInt8)} : VersionOf (.expired out err) (.ok none)
  /-- The first line that is not blank, trimmed. -/
  | said {status : Int} {said complaints line : List Char} {before after : List (List Char)}
      (split : lines (normalizeNewlines said) = before ++ line :: after)
      (blank : ∀ l ∈ before, allBlank l = true) (dark : allBlank line = false) :
      VersionOf (.exited status (encode said) (encode complaints)) (.ok (some (String.ofList (trim line))))
  | silent {status : Int} {said complaints : List Char}
      (blank : ∀ l ∈ lines (normalizeNewlines said), allBlank l = true) :
      VersionOf (.exited status (encode said) (encode complaints)) (.ok none)
  /-- What it said is no text. -/
  | garbled {status : Int} {out err : List UInt8} {e : DecodeError} (garbled : ¬∃ said, out = encode said)
      (told : decodeStrict out = .error e) : VersionOf (.exited status out err) (.error (.malformed e))
  /-- What it complained of is no text. -/
  | garbledComplaints {status : Int} {said : List Char} {err : List UInt8} {e : DecodeError}
      (garbled : ¬∃ complaints, err = encode complaints) (told : decodeStrict err = .error e) :
      VersionOf (.exited status (encode said) err) (.error (.malformed e))

/-- The first line that is not blank is the version, if there is one. -/
theorem versionOf_encode (status : Int) (said complaints : List Char) :
    VersionOf (.exited status (encode said) (encode complaints)) (.ok (firstLine? (normalizeNewlines said))) := by
  unfold firstLine?
  cases hfind : (lines (normalizeNewlines said)).find? (!allBlank ·) with
  | none =>
      refine .silent fun l hl => ?_
      simpa using List.find?_eq_none.mp hfind l hl
  | some line =>
      obtain ⟨dark, before, after, split, blank⟩ := List.find?_eq_some_iff_append.mp hfind
      exact .said split (fun l hl => by simpa using blank l hl) (by simpa using dark)

/-- A tool that exited is taken at its word, whatever its status. -/
theorem versionOf_versionIn (status : Int) (out err : List UInt8) :
    VersionOf (.exited status out err) ((versionIn out err).mapError .malformed) := by
  unfold versionIn
  cases hout : decodeStrict out with
  | error e => exact .garbled (exists_decodeStrict_eq_error_iff.mp ⟨e, hout⟩) hout
  | ok said =>
      cases herr : decodeStrict err with
      | error e =>
          rw [decodeStrict_eq_ok_iff.mp hout]
          exact .garbledComplaints (exists_decodeStrict_eq_error_iff.mp ⟨e, herr⟩) herr
      | ok complaints =>
          rw [decodeStrict_eq_ok_iff.mp hout, decodeStrict_eq_ok_iff.mp herr]
          exact versionOf_encode status said complaints

namespace World

variable (w : World) (path : String)

/-- How the process ends that is asked for a version. -/
def answer : Ending :=
  (w.attempt [path, "--version"] versionLimit none).1

/-- That it is started. -/
def asking : Event :=
  .started ⟨[path, "--version"], versionLimit, none⟩

/-- One process is started to ask for a version, and the answer is read off how it ended. -/
theorem toolVersion_eq : w.toolVersion path =
    ⟨match w.answer path with
      | .refused fault => .error (.refused fault)
      | .unstarted _ | .expired _ _ => .ok none
      | .exited _ out err => (versionIn out err).mapError .malformed, [asking path]⟩ := by
  unfold toolVersion answer start asking
  cases hattempt : w.attempt [path, "--version"] versionLimit none with
  | mk ending ws =>
      cases ending with
      | refused fault => rfl
      | unstarted e => rfl
      | expired out err => rfl
      | exited status out err => rfl

variable {w path} in
/-- Whatever the answer, it was asked for once. -/
theorem toolVersion_eq_of_value {answer : Except VersionFault (Option String)} (h : (w.toolVersion path).value = answer) :
    w.toolVersion path = ⟨answer, [asking path]⟩ := by
  rw [toolVersion_eq] at h ⊢
  rw [← h]

/-- **The version of a tool**, for every way in which the process can end. -/
theorem versionOf_toolVersion : VersionOf (w.answer path) (w.toolVersion path).value := by
  rw [toolVersion_eq]
  cases w.answer path with
  | refused fault => exact .refused
  | unstarted e => exact .unstarted
  | expired out err => exact .expired
  | exited status out err => exact versionOf_versionIn status out err

end World

namespace Session

variable (s : Session)

/-! ## One tool after the other -/

/-- A tool that cannot be asked keeps the others from being asked. -/
theorem askVersions_cons_error {tool : Tool} {path : String} {e : VersionFault}
    (h : (s.surroundings.world.toolVersion path).value = .error e) (tools : List (Tool × String)) :
    s.askVersions ((tool, path) :: tools) = ⟨.error e, [World.asking path]⟩ := by
  rw [askVersions, Traced.bind_eq (World.toolVersion_eq_of_value h)]
  rfl

/-- Otherwise its version is the first, and the others are asked in turn. -/
theorem askVersions_cons_ok {tool : Tool} {path : String} {version : Option String}
    (h : (s.surroundings.world.toolVersion path).value = .ok version) (tools : List (Tool × String)) :
    s.askVersions ((tool, path) :: tools) =
      ⟨(s.askVersions tools).value.map ((tool, version) :: ·), World.asking path :: (s.askVersions tools).events⟩ := by
  rw [askVersions, Traced.bind_eq (World.toolVersion_eq_of_value h)]
  simp

/-- What a tool says its version is, if it says so in text. -/
def version (path : String) : Option String :=
  ((s.surroundings.world.toolVersion path).value.toOption).join

/-- The version of a tool that answers is its answer. -/
theorem version_eq_of_value {path : String} {v : Option String}
    (h : (s.surroundings.world.toolVersion path).value = .ok v) : s.version path = v := by
  unfold version
  rw [h]
  rfl

/-- Either all tools answer in text, and then all are asked; or the first that does not is the last to be asked. -/
theorem askVersions_cases (tools : List (Tool × String)) :
    ((∀ tool ∈ tools, (s.surroundings.world.toolVersion tool.2).value = .ok (s.version tool.2)) ∧
      s.askVersions tools = ⟨.ok (tools.map fun tool => (tool.1, s.version tool.2)),
        tools.map fun tool => World.asking tool.2⟩) ∨
    ∃ before tool after e, tools = before ++ tool :: after ∧
      (∀ tool ∈ before, (s.surroundings.world.toolVersion tool.2).value = .ok (s.version tool.2)) ∧
      (s.surroundings.world.toolVersion tool.2).value = .error e ∧
      s.askVersions tools = ⟨.error e, (before ++ [tool]).map fun tool => World.asking tool.2⟩ := by
  induction tools with
  | nil => exact .inl ⟨nofun, rfl⟩
  | cons tool tools ih =>
      obtain ⟨t, path⟩ := tool
      cases hversion : (s.surroundings.world.toolVersion path).value with
      | error e =>
          exact .inr ⟨[], (t, path), tools, e, rfl, nofun, hversion, s.askVersions_cons_error hversion tools⟩
      | ok v =>
          obtain rfl := s.version_eq_of_value hversion
          rw [s.askVersions_cons_ok hversion]
          rcases ih with ⟨hall, heq⟩ | ⟨before, tool, after, e, rfl, hbefore, herror, heq⟩
          · refine .inl ⟨List.forall_mem_cons.mpr ⟨hversion, hall⟩, ?_⟩
            rw [heq]
            rfl
          · refine .inr ⟨(t, path) :: before, tool, after, e, rfl, List.forall_mem_cons.mpr ⟨hversion, hbefore⟩,
              herror, ?_⟩
            rw [heq]
            rfl

/-! ## The table -/

/-- What is done to the entries of a list is done to the one that is looked up. -/
theorem lookup_map {α β γ : Type} [BEq α] (f : β → γ) (k : α) (entries : List (α × β)) :
    (entries.map fun entry => (entry.1, f entry.2)).lookup k = (entries.lookup k).map f := by
  induction entries with
  | nil => rfl
  | cons entry entries ih =>
      rw [List.map_cons, List.lookup_cons, List.lookup_cons]
      split
      · rfl
      · exact ih

/-- How a command goes that has a table to show and a code to end with. -/
inductive Lists (table : Table) (code : Nat) : Traced Aftermath → Prop where
  | shown (sound : s.markupFault table = none) : Lists table code ⟨s.exit code, [.shown .out (.table table)]⟩
  /-- The console makes no sense of the markup in the table. -/
  | unsound {message : String} (fault : s.markupFault table = some message) :
      Lists table code ⟨s.fail (.markup message), []⟩

/-- A table is shown, or the console cannot make sense of it. -/
theorem lists_list (table : Table) (code : Nat) : s.Lists table code (s.list table code) := by
  unfold list
  cases hfault : s.markupFault table with
  | none => exact .shown hfault
  | some message => exact .unsound hfault

/-- How the listing of the tools goes, by what they say of themselves. -/
inductive Listed : Traced Aftermath → Prop where
  /-- Every tool that is found answers in text, or not at all: the table is listed, and the code says whether both tools
  were found. -/
  | listed {version : String → Option String} {code : Nat} {listing : Traced Aftermath}
      (told : ∀ t path, Tool.locate s.surroundings.lookUp t = some path →
        VersionOf (s.surroundings.world.answer path) (.ok (version path)))
      (code_eq : (code = 0 ∧ ∀ t, ∃ path, Tool.Found s.surroundings.lookUp t path) ∨
        (code = 1 ∧ ¬∀ t, ∃ path, Tool.Found s.surroundings.lookUp t path))
      (lists : s.Lists (toolsTable (Tool.locate s.surroundings.lookUp)
        fun t => (t.locate s.surroundings.lookUp).bind version) code listing) :
      Listed ⟨listing.value,
        ((Tool.detectAll s.surroundings.lookUp).map fun tool => World.asking tool.2) ++ listing.events⟩
  /-- Some tool that is found cannot be asked or does not answer in text: the command breaks down over the first one. -/
  | broken {before after : List (Tool × String)} {tool : Tool × String} {e : VersionFault}
      (split : Tool.detectAll s.surroundings.lookUp = before ++ tool :: after)
      (told : ∀ tool ∈ before, ∃ v, VersionOf (s.surroundings.world.answer tool.2) (.ok v))
      (garbled : VersionOf (s.surroundings.world.answer tool.2) (.error e)) :
      Listed ⟨s.fail e.breakdown, (before ++ [tool]).map fun tool => World.asking tool.2⟩

/-- If some tool cannot be asked, the command breaks down without a table. -/
theorem listTools_of_error {e : VersionFault} {events : List Event}
    (h : s.askVersions (Tool.detectAll s.surroundings.lookUp) = ⟨.error e, events⟩) :
    s.listTools = ⟨s.fail e.breakdown, events⟩ := by
  rw [listTools, Traced.bind_eq h]
  simp

/-- If all can, the table has the places and the versions, and the code counts the tools. -/
theorem listTools_of_ok {events : List Event}
    (h : s.askVersions (Tool.detectAll s.surroundings.lookUp) =
      ⟨.ok ((Tool.detectAll s.surroundings.lookUp).map fun tool => (tool.1, s.version tool.2)), events⟩) :
    ∃ listing, s.listTools = ⟨listing.value, events ++ listing.events⟩ ∧
      s.Lists (toolsTable (Tool.locate s.surroundings.lookUp)
        fun t => (t.locate s.surroundings.lookUp).bind s.version)
        (if (Tool.detectAll s.surroundings.lookUp).length = Tool.all.length then 0 else 1) listing := by
  have versions : ∀ t,
      (((Tool.detectAll s.surroundings.lookUp).map fun tool => (tool.1, s.version tool.2)).lookup t).join =
        (t.locate s.surroundings.lookUp).bind s.version := by
    intro t
    rw [lookup_map, Tool.lookup_detectAll]
    cases t.locate s.surroundings.lookUp with
    | none => rfl
    | some place => rfl
  refine ⟨_, ?_, s.lists_list _ _⟩
  rw [listTools, Traced.bind_eq h]
  simp only [versions, Tool.lookup_detectAll]
  rfl

/-- **The command that lists the tools**, for every session, and the versions it goes by. -/
theorem listed_listTools :
    (∀ path, VersionOf (s.surroundings.world.answer path) (s.surroundings.world.toolVersion path).value) ∧
      s.Listed s.listTools := by
  refine ⟨s.surroundings.world.versionOf_toolVersion, ?_⟩
  have answers : ∀ {tool : Tool × String} {answer}, (s.surroundings.world.toolVersion tool.2).value = answer →
      VersionOf (s.surroundings.world.answer tool.2) answer := by
    rintro tool _ rfl
    exact s.surroundings.world.versionOf_toolVersion tool.2
  rcases s.askVersions_cases (Tool.detectAll s.surroundings.lookUp) with
    ⟨hall, heq⟩ | ⟨before, tool, after, e, hsplit, hbefore, herror, heq⟩
  · obtain ⟨listing, hlisting, lists⟩ := s.listTools_of_ok heq
    rw [hlisting]
    refine .listed (fun t path hlocate => ?_) ?_ lists
    · have hmem := Tool.mem_detectAll_iff.mpr (Tool.locate_eq_some_iff.mp hlocate)
      exact answers (hall _ hmem)
    · rw [← Tool.length_detectAll_eq_iff]
      split
      · exact .inl ⟨rfl, ‹_›⟩
      · exact .inr ⟨rfl, ‹_›⟩
  · rw [s.listTools_of_error heq]
    exact .broken hsplit (fun tool hmem => ⟨_, answers (hbefore tool hmem)⟩) (answers herror)

/-- A session in which both tools are found, and what they say of themselves ends in a byte that is no text. -/
def withGarbledTools : Session where
  surroundings :=
    { world := .uniform (.exited 0 (encode "clang version 18\n".toList ++ [0xFF]) [])
      machine := .ok "x86_64"
      environment := fun _ => none
      lookUp := fun name => some ("/opt/" ++ name) }
  files := ⟨.empty, []⟩
  standardInput := .ok []

/-- **A tool whose answer is no text breaks the command down**, though both are found and a version is there. -/
theorem broken_listTools_withGarbledTools :
    (withGarbledTools.surroundings.world.toolVersion "/opt/clang").value =
        .error (.malformed ⟨17, [0xFF], .startByte⟩) ∧
      withGarbledTools.listTools.value.ending = .broken (.malformedText ⟨17, [0xFF], .startByte⟩) := by
  have answered : withGarbledTools.surroundings.world.answer "/opt/clang" =
      .exited 0 (encode "clang version 18\n".toList ++ [0xFF]) [] := by
    decide +kernel
  refine ⟨?_, by decide +kernel⟩
  rw [World.toolVersion_eq, answered]
  rfl

end Session

end SnippetCost
