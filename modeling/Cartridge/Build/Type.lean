/-!
# Build types

What the toolchain is asked to build.
-/

namespace Cartridge

/-- What is built: a file for the console, or a page that plays it. -/
inductive BuildType where
  | rom
  | web
  deriving DecidableEq, Repr

namespace BuildType

/-- The name of a build type, which is the argument of the build program. -/
def name : BuildType → String
  | rom => "rom"
  | web => "web"

/-- All build types. -/
def all : List BuildType := [rom, web]

/-- The build type of a name. -/
def ofName? (name : String) : Option BuildType := all.find? (·.name == name)

/-- The name of a build type stands for it. -/
theorem ofName?_name (buildType : BuildType) : ofName? buildType.name = some buildType := by
  cases buildType <;> rfl

end BuildType
end Cartridge
