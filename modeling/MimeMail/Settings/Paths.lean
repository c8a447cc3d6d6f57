import MimeMail.Settings.Basic

namespace MimeMail

structure Environment where
  settingsFile : Option Text := none
  configHome : Option Text := none
  cacheHome : Option Text := none
  home : Option Text := none

namespace Environment

def below (directory : Text) (name : String) : Text :=
  if directory.isEmpty || directory.getLast? == some '/' then directory ++ name.toList
  else directory ++ '/' :: name.toList

def userDirectory? (env : Environment) (named : Option Text) (name : String) : Option Text :=
  named.filter (·.head? == some '/') <|>
    (env.home.filter (!·.isEmpty)).map fun home => below home name

def settingsPath? (env : Environment) : Option Text :=
  env.settingsFile <|> (env.userDirectory? env.configHome ".config").map fun directory =>
    below (below directory "watney") "config.toml"

def cacheDirectory (env : Environment) (settings : Settings) : Text :=
  settings.general.cacheDir.getD
    (below ((env.userDirectory? env.cacheHome ".cache").getD ['.']) "watney")

def logPath (env : Environment) (settings : Settings) : Text :=
  below (env.cacheDirectory settings) "watney.log"

end Environment

end MimeMail
