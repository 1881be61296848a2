import ImageCatalog.Cli.Parse

/-!
# The program's commands

The command tree of the catalog tool: the root takes the settings file,
verbosity and the version option; `images` lists, shows, searches,
captures and removes templates, and `catalogs` lists catalogs. Each leaf
names a `Task`; the descriptions are the help pages' text, where a line
holding only a backspace keeps the next lines as they stand.
-/

namespace ImageCatalog.Cli

/-- What a command line asks the tool to do. -/
inductive Task where
  | listImages
  | showImage
  | searchPublic
  | capture
  | remove
  | listCatalogs
  deriving Repr, BEq, Inhabited

/-- The version the tool reports. -/
def toolVersion : String := "0.1.0"

/-- An option that takes a text. -/
def textOption (key name help : String) (required : Bool := false) : Param :=
  .option { key := key, names := [name], kind := .value "TEXT" required, help := help }

/-- A flag. -/
def flagOption (key : String) (names : List String) (help : String) : Param :=
  .option { key := key, names := names, kind := .flag, help := help }

/-- The `images` group. -/
def imagesCommand : Command Task :=
  .group "images"
    ("Manage vApp templates as machine images.\n\n\x08\nEXAMPLES:\n" ++
      "    # List the organization's templates\n    $ vcimage images list\n\n" ++
      "    # Only templates whose name matches a pattern\n    $ vcimage images list --name 'ubuntu.*22'\n\n" ++
      "    # Search public catalogs\n    $ vcimage images search-public --name centos\n\n" ++
      "    # Capture a VM's vApp as a new template\n" ++
      "    $ vcimage images capture vm-1234 --name golden-web --description \"Web tier\"\n\n" ++
      "    # Remove a template and its catalog item\n    $ vcimage images remove vappTemplate-5678")
    [] .needsCommand
    [.leaf "list" "List templates in the organization's private catalogs."
        [textOption "name_pattern" "--name" "Regular expression matched against names"] .listImages,
     .leaf "show" "Show details of one template.\n\n\x08\nExample:\n    vcimage images show vappTemplate-5678"
        [.argument "image_id" "IMAGE_ID"] .showImage,
     .leaf "search-public" "Search public catalogs for templates."
        [textOption "name_pattern" "--name" "Regular expression matched against names"] .searchPublic,
     .leaf "capture"
        ("Capture a VM's vApp as a new template and publish it.\n\n" ++
          "A running vApp is shut down for the capture and redeployed afterwards.\n\n" ++
          "\x08\nExample:\n    vcimage images capture vm-1234 --name golden-web")
        [.argument "vm_id" "VM_ID", textOption "name" "--name" "Name of the new template" true,
         textOption "description" "--description" "Description of the new template"] .capture,
     .leaf "remove" "Delete a template and its catalog item.\n\n\x08\nExample:\n    vcimage images remove vappTemplate-5678 --yes"
        [.argument "image_id" "IMAGE_ID", flagOption "yes" ["--yes", "-y"] "Skip confirmation prompt"] .remove]

/-- The `catalogs` group. -/
def catalogsCommand : Command Task :=
  .group "catalogs"
    ("Inspect vCloud catalogs.\n\n\x08\nEXAMPLES:\n" ++
      "    # Private catalogs of the organization\n    $ vcimage catalogs list\n\n" ++
      "    # Public catalogs\n    $ vcimage catalogs list --public")
    [] .needsCommand
    [.leaf "list" "List catalogs visible to the organization."
        [flagOption "published" ["--public"] "List public catalogs"] .listCatalogs]

/-- The root of the tool's commands. -/
def toolCommand : Command Task :=
  .group "vcimage"
    ("vcimage - vCloud Director vApp templates as machine images.\n\n" ++
      "Lists, captures, publishes and removes vApp templates in the catalogs of\n" ++
      "a vCloud organization.\n\n" ++
      "\x08\nEXAMPLES:\n    $ vcimage images list\n    $ vcimage images capture vm-1234 --name golden-web\n" ++
      "    $ vcimage catalogs list --public\n\n" ++
      "\x08\nCONFIGURATION:\n    Config file: ~/.vcimage/config.toml\n    Required: endpoint, org_id\n" ++
      "    Session token: VCIMAGE_AUTH_TOKEN environment variable\n\n" ++
      "For help on any command: vcimage <command> --help")
    [.option { key := "config_path", names := ["--config"], kind := .value "PATH" false, help := "Config file path" },
     flagOption "verbose" ["--verbose", "-v"] "Enable debug logging",
     .option { key := "version", names := ["--version"], kind := .version, help := "Show the version and exit." }]
    .showsHelp
    [imagesCommand, catalogsCommand]

end ImageCatalog.Cli
