import VoidScript.Metadata
import VoidScript.Yaml.Scalar

/-!
The plugin descriptor, from which a server learns the plugin's name, version and main class.
-/

namespace VoidScript.Plugin

structure Descriptor where
  name : Text
  version : Text
  /-- The main class. Generated classes are in no package. -/
  main : Text
  author : Option Text
  deriving DecidableEq, Repr

namespace Descriptor

def fileName : Text := "plugin.yml".toList

def defaultVersion : Text := "1.0".toList

def ofMetadata (metadata : Metadata) : Descriptor where
  name := metadata.name
  version := metadata.version.getD defaultVersion
  main := metadata.name
  author := metadata.author

def yaml (descriptor : Descriptor) : Text :=
  Yaml.Scalar.field "name".toList descriptor.name
    ++ Yaml.Scalar.field "version".toList descriptor.version
    ++ Yaml.Scalar.field "main".toList descriptor.main
    ++ descriptor.author.toList.flatMap (Yaml.Scalar.field "author".toList)

end Descriptor

end VoidScript.Plugin
