import OpsLint.Dockerfile.Basic

/-!
# Rules for Dockerfiles

Base images should be pinned to a version (`unpinnedImages`), the container should switch to a user
(`missingUser`) and not back to root (`rootUser`), and a service should say how its health is
checked (`missingHealthcheck`).

An image is pinned by a tag other than `latest`. The rule passes over images that are given by a
digest or a variable, the empty image `scratch`, and names of **earlier** build stages. A colon is
that of a tag only after the last slash: before it, it belongs to the address of a registry.
-/

namespace OpsLint.Dockerfile

/-- What can be set about Dockerfiles. -/
structure Options where
  /-- Images need not be pinned. -/
  allowLatestTag : Bool := false
  /-- Ask for a user. -/
  requireUser : Bool := true
  /-- Ask for a health check. -/
  requireHealthcheck : Bool := true

/-! ## Images -/

/-- The image of a build stage, and the name that it gives to the stage. -/
def splitFrom (arguments : Text) : Text × Option Text :=
  match (Text.words arguments).filter (!Text.startsWith · "--") with
  | [] => ("", none)
  | image :: as :: stage :: _ =>
    (image, if Text.capitals as = "AS" then some stage else none)
  | image :: _ => (image, none)

/-- The part of an image after its last slash. -/
def baseName (image : Text) : Text := (image.reverse.takeWhile (· ≠ '/')).reverse

/-- The tag of an image. -/
def imageTag? (image : Text) : Option Text := (Text.cut? ':' (baseName image)).map (·.2)

/-- The image is pinned by other means than a tag, or names a stage. -/
def isExempt (stages : List Text) (image : Text) : Bool :=
  image.isEmpty || image.contains '$' || image.contains '@' || Text.lower image = "scratch" ||
    stages.contains (Text.lower image)

/-- What is wrong with the tag of an image, if anything is. -/
def tagProblem? (image : Text) : Option Text :=
  match imageTag? image with
  | none => some ("Image '" ++ image ++ "' has no tag and implicitly uses 'latest'; " ++
      "pin a specific version")
  | some tag =>
    if tag = "latest" then
      some ("Image '" ++ image ++ "' uses the 'latest' tag; pin a specific version")
    else none

/-- The stage that an instruction names, in small letters. -/
def stageName? (i : Instruction) : Option Text :=
  match (splitFrom i.arguments).2 with
  | some stage => if stage.isEmpty then none else some (Text.lower stage)
  | none => none

/-- The finding about an image, given the names of the stages before it. -/
def imageFinding? (stages : List Text) (i : Instruction) : Option Finding :=
  let image := (splitFrom i.arguments).1
  if isExempt stages image then none
  else (tagProblem? image).map fun message => { line := i.line, message }

/-- The findings about the images of a list of stages, after stages of given names. -/
def imageFindings (stages : List Text) : List Instruction → List Finding
  | [] => []
  | i :: rest =>
    (imageFinding? stages i).toList ++ imageFindings ((stageName? i).toList ++ stages) rest

/-- Images that are not pinned to a version. -/
def unpinnedImages (options : Options) (d : Dockerfile) : List Finding :=
  if options.allowLatestTag then [] else imageFindings [] (d.find "FROM")

/-! ## Users and health -/

/-- The line of the last build stage, at which what is missing is reported. -/
def anchorLine (d : Dockerfile) : Nat := ((d.find "FROM").getLast?.map Instruction.line).getD 1

/-- A Dockerfile that names no user. -/
def missingUser (options : Options) (d : Dockerfile) : List Finding :=
  if !options.requireUser || d.has "USER" then []
  else [{
    line := d.anchorLine
    message := "No USER instruction found; the container will run as root" }]

/-- A Dockerfile without a health check. -/
def missingHealthcheck (options : Options) (d : Dockerfile) : List Finding :=
  if !options.requireHealthcheck || d.has "HEALTHCHECK" then []
  else [{ line := d.anchorLine, message := "No HEALTHCHECK instruction found" }]

/-- A Dockerfile whose last user is root. -/
def rootUser (d : Dockerfile) : List Finding :=
  match (d.find "USER").getLast? with
  | none => []
  | some i =>
    let user := Text.trim (Text.before ':' i.arguments)
    if user = "root" || user = "0" then
      [{ line := i.line
         column := i.column
         message := "Final USER is '" ++ user ++ "'; switch to an unprivileged user" }]
    else []

end OpsLint.Dockerfile
