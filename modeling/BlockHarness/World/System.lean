import BlockHarness.World.Files

/-! The files that a system brings along: its programs, and the devices. -/
namespace BlockHarness
set_option autoImplicit false

def systemPrograms : List (Text × Utility) :=
  [("sh", .shell), ("dash", .shell), ("cat", .cat), ("head", .head), ("ls", .list), ("tr", .exchange),
    ("wc", .count), ("echo", .echo), ("true", .succeed), ("false", .fail), ("sleep", .sleep)]

/-- Names of programs of which no more is known than that they are there. -/
def foreignPrograms : List Text := Text.splitOn ' ' <|
  "[ arch awk base64 basename bash chgrp chmod chown cksum cmp comm cp csplit cut date dd df diff dir "
  ++ "dirname du egrep env expand expr factor fgrep find fmt fold grep groups gunzip gzip hostname id "
  ++ "install join link ln logname md5sum mkdir mkfifo mknod mktemp mv nice nl nohup nproc numfmt od paste "
  ++ "perl pr printenv printf pwd readlink realpath rm rmdir sed seq sha256sum shuf sort split stat stdbuf "
  ++ "stty sum sync tac tail tar tee test timeout touch truncate tsort tty uname unexpand uniq unlink "
  ++ "which who whoami xargs yes zcat"

/-- The home directory of the account under which everything runs. -/
def accountHome : Text := "/root"

def systemDirectories : List Location :=
  [["bin"], ["boot"], ["dev"], ["dev", "fd"], ["etc"], ["home"], ["lib"], ["media"], ["mnt"], ["opt"], ["proc"],
    ["proc", "self"], ["proc", "self", "fd"], ["root"], ["run"], ["sbin"], ["srv"], ["sys"], ["tmp"], ["usr"],
    ["usr", "bin"], ["usr", "lib"], ["usr", "local"], ["usr", "local", "bin"], ["usr", "sbin"], ["usr", "share"],
    ["var"], ["var", "tmp"]]

def systemDevices : List (Location × Device) :=
  let fixed : List (Text × Device) :=
    [("null", .null), ("zero", .zero), ("full", .full), ("tty", .terminal), ("stdin", .opened 0),
      ("stdout", .opened 1), ("stderr", .opened 2)]
  let numbered (n : Nat) : List (Location × Device) :=
    let name := Text.ofNat n
    [([("dev" : Text), "fd", name], .opened n), ([("proc" : Text), "self", "fd", name], .opened n)]
  fixed.map (fun (name, device) => ([("dev" : Text), name], device)) ++ (List.range 10).flatMap numbered

/-- A system with nothing in it but what every system has. -/
def Files.system : Files :=
  let programs := systemPrograms ++ foreignPrograms.map fun name => (name, .foreign)
  let everywhere (name : Text) (u : Utility) : List (Location × Entry) :=
    [([("bin" : Text), name], .utility u), ([("usr" : Text), "bin", name], .utility u)]
  { entries :=
      systemDevices.map (fun (l, device) => (l, .device device)) ++ systemDirectories.map (fun l => (l, .directory))
        ++ programs.flatMap fun (name, u) => everywhere name u
    current := [] }

end BlockHarness
