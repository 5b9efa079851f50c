import PlainTerminal.Router

/-!
# A listing always comes to something

To list a place of the challenge is to ask the tree twice: what there is, and then what it holds. The
second question can be answered by an error, and `ls` hands that on as something that has gone wrong
inside the terminal. It never comes to that, because both answers are about one and the same node.
So `ls` is the same as `listing`, which asks once and has no error to hand on; whatever is to be
shown of `ls` is shown of `listing`.
-/

namespace PlainTerminal

/-- Where there is a directory, its children are given. -/
theorem Tree.entries_of_resolve {tree : Tree} {path : String} {a : Attributes}
    {children : Keyed Node} (h : tree.resolve path = some (.directory a children))
    (showHidden : Bool) :
    tree.entries path showHidden
      = .ok (children.filter fun e => showHidden || !isHidden e.1) := by
  unfold entries
  rw [h]

namespace Router

/-- What there is to tell of a place of the challenge. -/
def challengeListing (path place : String) (showHidden long : Bool) : Action Outcome := do
  let s ← get
  match Challenge.lockAt place s.progress with
  | some lock =>
    return .failure ("ls: cannot open directory '" ++ path ++ "': " ++ lock.message) 1
  | none =>
    match s.store.tree.resolve place with
    | none =>
      let shown := if path = "" then "." else path
      return .failure ("ls: cannot access '" ++ shown ++ "': No such file or directory") 2
    | some (.file a content) =>
      return .ok ((if long then Listing.ofNode path (.file a content) else path) ++ "\n")
    | some (.directory _ children) =>
      let entries := children.filter fun e => showHidden || !Tree.isHidden e.1
      if long then return .ok (Listing.withTotal (entries.map fun e => Listing.ofNode e.1 e.2))
      else return .ok ("  ".intercalate (entries.map Prod.fst) ++ "\n")

/-- What there is to tell of a directory. -/
def listing (rest : String) : Action Outcome := do
  let s ← get
  let words := Text.words rest
  let flags := words.filter Likeness.isFlag
  let showHidden := flags.any fun f => f.toList.contains 'a' || f.toList.contains 'A'
  let long := flags.any fun f => f.toList.contains 'l'
  let path := (words.filter fun w => !Likeness.isFlag w).headD ""
  let place := s.placeOf path
  if Challenge.contains place then challengeListing path place showHidden long
  else if s.inVirtualTree then
    return .simulated (← Session.listDirectory path showHidden).toCommand
  else
    return ⟨← Session.safeExecute (if rest = "" then "ls" else "ls " ++ rest), false⟩

/-- No error of the tree is ever handed on. -/
theorem lsChallenge_eq (path place : String) (showHidden long : Bool) :
    lsChallenge path place showHidden long = (do
      return .ok (← challengeListing path place showHidden long)) := by
  unfold lsChallenge challengeListing
  rw [LawfulMonad.bind_assoc]
  refine bind_congr fun s => ?_
  cases Challenge.lockAt place s.progress with
  | some lock => rfl
  | none =>
      cases hresolve : s.store.tree.resolve place with
      | none => rfl
      | some node =>
          cases node with
          | file a content => rfl
          | directory a children =>
              -- the tree is asked for the children of a directory that it has
              dsimp only
              rw [Tree.entries_of_resolve hresolve]
              dsimp only
              split
              · rfl
              · rfl

/-- **A listing always comes to something.** -/
theorem ls_eq (rest : String) : ls rest = (do return .ok (← listing rest)) := by
  unfold ls listing
  rw [LawfulMonad.bind_assoc]
  refine bind_congr fun s => ?_
  dsimp only
  split
  · exact lsChallenge_eq _ _ _ _
  · split
    · rw [LawfulMonad.bind_assoc]
      rfl
    · rw [LawfulMonad.bind_assoc]
      rfl

end Router

end PlainTerminal
