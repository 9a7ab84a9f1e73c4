import ModuleScaffold.Template.Controller

/-!
# Module classes

The module class ties controller and service together.  With the generated
client it offers the service to other modules; with a repository it registers
the entity.
-/

namespace ModuleScaffold.Template

/-- The class of the module. -/
def moduleClass : Piece :=
  .className "Module"

/-- The line that declares the class of the module. -/
def declaringModule : TemplateLine :=
  ["export class ", moduleClass, " \x7b\x7d"]

/-- The module class. -/
def moduleFile : Backend → Template
  | .prisma =>
    [importing ["Module"] ["@nestjs/common"],
      importingController,
      importingService,
      [],
      ["@Module(\x7b"],
      ["  controllers: [", controllerClass, "],"],
      ["  providers: [", serviceClass, "],"],
      ["  exports: [", serviceClass, "],"],
      ["\x7d)"],
      declaringModule]
  | .typeorm =>
    [importing ["Module"] ["@nestjs/common"],
      importing ["TypeOrmModule"] ["@nestjs/typeorm"],
      importingEntity,
      importingController,
      importingService,
      [],
      ["@Module(\x7b"],
      ["  imports: [TypeOrmModule.forFeature([", entityClass, "])],"],
      ["  controllers: [", controllerClass, "],"],
      ["  providers: [", serviceClass, "],"],
      ["\x7d)"],
      declaringModule]

end ModuleScaffold.Template
