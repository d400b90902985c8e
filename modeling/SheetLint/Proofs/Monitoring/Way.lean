import SheetLint.Monitoring.Sink

namespace SheetLint.Monitoring

/-!
# Ways of paths

A path leads from directory to directory, and where it leads can be told from
its writing and the current directory alone.  To make the directory of a path is
to make every place that it enters a directory, up to the first that is in the
way because a file stands there or its name is too long.
-/

/-! ## Where a path leads -/

/-- The place that a component leads to. -/
def enter (place : Place) (component : List UInt8) : Place :=
  if component = Path.here then
    place
  else if component = Path.above then
    place.tail
  else
    component :: place

/-- The places that are entered by their names on the way along components. -/
def wayFrom (place : Place) : List (List UInt8) → List Place
  | [] =>
      []
  | component :: rest =>
      let next := enter place component
      if component = Path.here ∨ component = Path.above then
        wayFrom next rest
      else
        next :: wayFrom next rest

namespace Path

/-- Where a path begins. -/
def origin (path : Path) (current : Place) : Place :=
  if path.shape.absolute then [] else current

/-- The place that a path leads to. -/
def place (path : Path) (current : Place) : Place :=
  path.shape.components.foldl enter (path.origin current)

/-- The places that a path enters by their names, in order. -/
def way (path : Path) (current : Place) : List Place :=
  wayFrom (path.origin current) path.shape.components

/-- Whether a path can be followed at all. -/
def isUsable (path : Path) : Bool :=
  !path.bytes.contains 0 && path.trimEnd.bytes.length < pathLimit

end Path

namespace FileTree

/-- Whether a place cannot be made a directory. -/
def blocks (tree : FileTree) (place : Place) : Bool :=
  tree.isFile place || place.head?.any (nameLimit < ·.length)

/-- The places that a path enters before it is stopped. -/
def passed (tree : FileTree) (path : Path) : List Place :=
  if path.isUsable then
    (path.way tree.current).takeWhile (!tree.blocks ·)
  else
    []

/-- Whether the directory of a path can be made. -/
def allows (tree : FileTree) (path : Path) : Bool :=
  path.isUsable && (path.way tree.current).all (!tree.blocks ·)

/-- Files are not directories, and the current directory is one. -/
structure Sound (tree : FileTree) : Prop where
  current_isDirectory :
    tree.isDirectory tree.current = true
  file_notDirectory :
    ∀ {place : Place},
      tree.isFile place = true →
      tree.isDirectory place = false

/--
`grown` is `tree` with all places of a list, and those above them, made
directories.
-/
structure GrownBy (tree : FileTree) (places : List Place) (grown : FileTree) :
    Prop where
  sound :
    grown.Sound
  current_eq :
    grown.current = tree.current
  files_eq :
    grown.files = tree.files
  isDirectory_iff :
    ∀ place : Place,
      grown.isDirectory place = true ↔
        tree.isDirectory place = true ∨ ∃ made ∈ places, place <:+ made

/-! ## Directories -/

theorem isDirectory_eq_true_iff
    {tree : FileTree}
    {place : Place} :
    tree.isDirectory place = true ↔
      (∃ directory ∈ tree.directories, place <:+ directory) ∨
        ∃ file ∈ tree.files, place <:+ file.tail := by
  simp [isDirectory]

/-- What stands above a directory is one. -/
theorem isDirectory_of_suffix
    {tree : FileTree}
    {above place : Place}
    (suffix : above <:+ place)
    (directory : tree.isDirectory place = true) :
    tree.isDirectory above = true := by
  rw [isDirectory_eq_true_iff] at directory ⊢
  rcases directory with ⟨other, member, below⟩ | ⟨file, member, below⟩
  · exact .inl ⟨other, member, suffix.trans below⟩
  · exact .inr ⟨file, member, suffix.trans below⟩

theorem blocks_cons
    {tree : FileTree}
    {name : List UInt8}
    {place : Place} :
    tree.blocks (name :: place) = true ↔
      tree.isFile (name :: place) = true ∨ nameLimit < name.length := by
  simp [blocks]

theorem isDirectory_add_iff
    {tree : FileTree}
    {added place : Place} :
    (tree.add added).isDirectory place = true ↔
      tree.isDirectory place = true ∨ place <:+ added := by
  rw [isDirectory_eq_true_iff, isDirectory_eq_true_iff]
  simp only [add, List.mem_cons, exists_eq_or_imp]
  rw [or_assoc, or_comm]

/--
A run begins among sound files, unless its directory lies at or below a system
file.
-/
theorem sound_fresh
    {current : Place}
    (clear : ∀ file ∈ systemFiles, ¬ file <:+ current) :
    (fresh current).Sound where
  current_isDirectory :=
    isDirectory_eq_true_iff.mpr
      (.inl ⟨current, List.mem_singleton_self _, List.suffix_rfl⟩)
  file_notDirectory := by
    intro place isFile
    have member : place ∈ systemFiles :=
      List.contains_iff_mem.mp isFile
    have apart :
        ∀ file ∈ systemFiles, ∀ other ∈ systemFiles, ¬ file <:+ other.tail := by
      decide
    rw [Bool.eq_false_iff, ne_eq, isDirectory_eq_true_iff]
    rintro (⟨directory, only, suffix⟩ | ⟨other, isOther, suffix⟩)
    · obtain rfl := List.mem_singleton.mp only
      exact clear place member suffix
    · exact apart place member other isOther suffix

namespace GrownBy

variable {tree grown final : FileTree} {places more : List Place}

theorem refl (sound : tree.Sound) : tree.GrownBy [] tree where
  sound := sound
  current_eq := rfl
  files_eq := rfl
  isDirectory_iff place := by
    simp

theorem trans
    (first : tree.GrownBy places grown)
    (second : grown.GrownBy more final) :
    tree.GrownBy (places ++ more) final where
  sound := second.sound
  current_eq := second.current_eq.trans first.current_eq
  files_eq := second.files_eq.trans first.files_eq
  isDirectory_iff place := by
    rw [second.isDirectory_iff, first.isDirectory_iff, or_assoc]
    simp only [List.mem_append, or_and_right, exists_or]

theorem isFile_eq (grows : tree.GrownBy places grown) (place : Place) :
    grown.isFile place = tree.isFile place := by
  rw [isFile, grows.files_eq, isFile]

theorem blocks_eq (grows : tree.GrownBy places grown) (place : Place) :
    grown.blocks place = tree.blocks place := by
  rw [blocks, grows.isFile_eq, blocks]

/-- A directory that is there need not be made. -/
theorem of_isDirectory
    (sound : tree.Sound)
    {place : Place}
    (directory : tree.isDirectory place = true) :
    tree.GrownBy [place] tree where
  sound := sound
  current_eq := rfl
  files_eq := rfl
  isDirectory_iff other := by
    simpa using fun suffix => isDirectory_of_suffix suffix directory

/-- A new directory in one that is there. -/
theorem add
    (sound : tree.Sound)
    {place : Place}
    {name : List UInt8}
    (directory : tree.isDirectory place = true)
    (noFile : tree.isFile (name :: place) = false) :
    tree.GrownBy [name :: place] (tree.add (name :: place)) where
  sound := by
    constructor
    · exact isDirectory_add_iff.mpr (.inl sound.current_isDirectory)
    · intro file isFile
      have notThere : tree.isDirectory file = false :=
        sound.file_notDirectory isFile
      rw [Bool.eq_false_iff]
      intro isDirectory
      rcases isDirectory_add_iff.mp isDirectory with there | suffix
      · rw [notThere] at there
        contradiction
      · rcases List.suffix_cons_iff.mp suffix with same | above
        · subst same
          have isFile : tree.isFile (name :: place) = true := isFile
          rw [noFile] at isFile
          contradiction
        · rw [isDirectory_of_suffix above directory] at notThere
          contradiction
  current_eq := rfl
  files_eq := rfl
  isDirectory_iff other := by
    simpa using isDirectory_add_iff

end GrownBy

/-! ## Following a path -/

theorem wayFrom_of_name
    {component : List UInt8}
    (notHere : component ≠ Path.here)
    (notAbove : component ≠ Path.above)
    (place : Place)
    (rest : List (List UInt8)) :
    wayFrom place (component :: rest) =
      (component :: place) :: wayFrom (component :: place) rest := by
  simp [wayFrom, enter, notHere, notAbove]

theorem foldl_enter_of_name
    {component : List UInt8}
    (notHere : component ≠ Path.here)
    (notAbove : component ≠ Path.above)
    (place : Place)
    (rest : List (List UInt8)) :
    (component :: rest).foldl enter place =
      rest.foldl enter (component :: place) := by
  simp [enter, notHere, notAbove]

/--
Components are followed from a place up to the first place that blocks the way.
The end is reached exactly if none does.
-/
structure Follows
    (tree : FileTree)
    (place : Place)
    (components : List (List UInt8))
    (result : Except Obstacle Place × FileTree) : Prop where
  grows :
    tree.GrownBy
      ((wayFrom place components).takeWhile (!tree.blocks ·)) result.2
  reached_iff :
    ∀ reached,
      result.1 = .ok reached ↔
        (wayFrom place components).all (!tree.blocks ·) = true ∧
          reached = components.foldl enter place

namespace Follows

variable
  {tree grown : FileTree}
  {place : Place}
  {component : List UInt8}
  {rest : List (List UInt8)}
  {result : Except Obstacle Place × FileTree}

/-- A place that blocks the way ends it. -/
theorem stop
    (notHere : component ≠ Path.here)
    (notAbove : component ≠ Path.above)
    (sound : tree.Sound)
    (blocked : tree.blocks (component :: place) = true)
    (obstacle : Obstacle) :
    Follows tree place (component :: rest) (.error obstacle, tree) where
  grows := by
    rw [wayFrom_of_name notHere notAbove, List.takeWhile_cons, blocked]
    exact .refl sound
  reached_iff reached := by
    rw [wayFrom_of_name notHere notAbove, List.all_cons, blocked]
    simp

/-- Another place is entered, where there is or has been made a directory. -/
theorem enter
    (notHere : component ≠ Path.here)
    (notAbove : component ≠ Path.above)
    (free : tree.blocks (component :: place) = false)
    (entered : tree.GrownBy [component :: place] grown)
    (later : Follows grown (component :: place) rest result) :
    Follows tree place (component :: rest) result := by
  have sameBlocks : grown.blocks = tree.blocks :=
    funext entered.blocks_eq
  constructor
  · rw [wayFrom_of_name notHere notAbove, List.takeWhile_cons, free]
    have further := entered.trans later.grows
    rwa [sameBlocks] at further
  · intro reached
    rw [wayFrom_of_name notHere notAbove, List.all_cons, free,
      foldl_enter_of_name notHere notAbove, later.reached_iff, sameBlocks]
    rfl

end Follows

theorem descend_follows
    {tree : FileTree}
    (sound : tree.Sound)
    {place : Place}
    (directory : tree.isDirectory place = true)
    (making : Bool)
    (components : List (List UInt8)) :
    Follows tree place components (tree.descend place making components) := by
  fun_induction descend tree place making components with
  | case1 =>
      exact ⟨.refl sound, fun reached => by simp [wayFrom, eq_comm]⟩
  | case2 tree place making rest inductionHypothesis =>
      obtain ⟨grows, reached_iff⟩ := inductionHypothesis sound directory
      exact ⟨by simpa [wayFrom, Monitoring.enter] using grows,
        by simpa [wayFrom, Monitoring.enter] using reached_iff⟩
  | case3 tree place making rest notHere inductionHypothesis =>
      have aboveDirectory : tree.isDirectory place.tail = true :=
        isDirectory_of_suffix (List.tail_suffix place) directory
      obtain ⟨grows, reached_iff⟩ := inductionHypothesis sound aboveDirectory
      exact ⟨by simpa [wayFrom, Monitoring.enter, notHere] using grows,
        by simpa [wayFrom, Monitoring.enter, notHere] using reached_iff⟩
  | case4 tree place making component rest notHere notAbove tooLong =>
      exact .stop notHere notAbove sound
        (blocks_cons.mpr (.inr tooLong)) .tooLong
  | case5 tree place making component rest next notHere notAbove fits
      isDirectory inductionHypothesis =>
      have notFile : tree.isFile next = false := by
        rw [Bool.eq_false_iff]
        intro isFile
        rw [sound.file_notDirectory isFile] at isDirectory
        contradiction
      have free : tree.blocks next = false := by
        rw [Bool.eq_false_iff]
        intro blocked
        rcases blocks_cons.mp blocked with isFile | tooLong
        · rw [notFile] at isFile
          contradiction
        · exact fits tooLong
      exact .enter notHere notAbove free (.of_isDirectory sound isDirectory)
        (inductionHypothesis sound isDirectory)
  | case6 tree place making component rest next notHere notAbove fits
      notDirectory isFile =>
      exact .stop notHere notAbove sound (blocks_cons.mpr (.inl isFile)) _
  | case7 tree place making component rest next notHere notAbove fits
      notDirectory notFile inductionHypothesis =>
      have free : tree.blocks next = false := by
        rw [Bool.eq_false_iff]
        intro blocked
        rcases blocks_cons.mp blocked with isFile | tooLong
        · exact notFile isFile
        · exact fits tooLong
      have entered : tree.GrownBy [next] (tree.add next) :=
        .add sound directory (Bool.eq_false_iff.mpr notFile)
      have isDirectory : (tree.add next).isDirectory next = true :=
        isDirectory_add_iff.mpr (.inr List.suffix_rfl)
      exact .enter notHere notAbove free entered
        (inductionHypothesis entered.sound isDirectory)

theorem isDirectory_origin
    {tree : FileTree}
    (sound : tree.Sound)
    (path : Path) :
    tree.isDirectory (path.origin tree.current) = true := by
  unfold Path.origin
  split
  · exact isDirectory_of_suffix (List.nil_suffix) sound.current_isDirectory
  · exact sound.current_isDirectory

theorem makeDirectory_of_isUsable
    {path : Path}
    (usable : path.isUsable = true)
    (tree : FileTree) :
    tree.makeDirectory path =
      tree.descend (path.origin tree.current) false path.shape.components := by
  simp only [Path.isUsable, Bool.and_eq_true, Bool.not_eq_true',
    decide_eq_true_eq] at usable
  rw [makeDirectory, usable.1, if_neg Bool.false_ne_true,
    if_neg (Nat.not_le.mpr usable.2)]
  rfl

theorem makeDirectory_of_not_isUsable
    {path : Path}
    (unusable : path.isUsable = false)
    (tree : FileTree) :
    ∃ obstacle, tree.makeDirectory path = (.error obstacle, tree) := by
  unfold makeDirectory
  split
  · exact ⟨_, rfl⟩
  · next noZero =>
      split
      · exact ⟨_, rfl⟩
      · next short =>
          rw [Path.isUsable, Bool.eq_false_iff.mpr noZero] at unusable
          exact absurd (by simpa using unusable) short

/-- Making the directory of a path makes directories of the places it passes. -/
theorem grownBy_makeDirectory
    {tree : FileTree}
    (sound : tree.Sound)
    (path : Path) :
    tree.GrownBy (tree.passed path) (tree.makeDirectory path).2 := by
  unfold passed
  by_cases usable : path.isUsable = true
  · rw [if_pos usable, makeDirectory_of_isUsable usable]
    exact (descend_follows sound (isDirectory_origin sound path) false _).grows
  · obtain ⟨obstacle, refused⟩ :=
      makeDirectory_of_not_isUsable (Bool.eq_false_iff.mpr usable) tree
    rw [if_neg usable, refused]
    exact .refl sound

theorem makeDirectory_eq_ok_iff
    {tree : FileTree}
    (sound : tree.Sound)
    {path : Path}
    {reached : Place} :
    (tree.makeDirectory path).1 = .ok reached ↔
      tree.allows path = true ∧ reached = path.place tree.current := by
  by_cases usable : path.isUsable = true
  · rw [makeDirectory_of_isUsable usable, allows, usable, Bool.true_and]
    exact (descend_follows sound
      (isDirectory_origin sound path) false _).reached_iff reached
  · obtain ⟨obstacle, refused⟩ :=
      makeDirectory_of_not_isUsable (Bool.eq_false_iff.mpr usable) tree
    rw [refused, allows, Bool.eq_false_iff.mpr usable]
    simp

end FileTree

end SheetLint.Monitoring
